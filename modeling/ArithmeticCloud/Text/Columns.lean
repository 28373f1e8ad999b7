/-!
Contract: columns of a text cut at single separators.

Owns: `columns`, which cuts at the first separators only, so that the last
column keeps whatever separators are left. Adjacent separators enclose an empty
column.

Does not own: words, which are separated by runs of blanks.
-/

namespace ArithmeticCloud.Text

/-- Cuts at no more than `cuts` separators, from the left. -/
def columns (separator : Char) : Nat → List Char → List (List Char)
  | 0, text => [text]
  | cuts + 1, text =>
      let column := text.takeWhile (· != separator)
      match text.dropWhile (· != separator) with
      | [] => [column]
      | _ :: rest => column :: columns separator cuts rest

end ArithmeticCloud.Text
