import ArithmeticCloud.Transport.Channel

/-!
Contract: one request and one answer over a connection of their own.

Owns: what the asking side makes of the bytes that come back: the first line, if
it can be read, and otherwise the fault that names what was wrong.

Does not own: the forms of answers.
-/

namespace ArithmeticCloud.Transport

/-- Reads the answer at the front of what `sender` sends before it closes. The
kind of the answer and the sender are named in faults. -/
def readAnswer {α : Type} (kind sender : String) (read? : String → Option α)
    (stream : Bytes) : Except Fault α :=
  match (Channel.ofStream stream).receiveText.1 with
  | .message line =>
      match read? line with
      | some answer => .ok answer
      | none => .error (.protocol ("unexpected " ++ kind ++ " reply `" ++ line ++ "`"))
  | .failed fault => .error fault
  | .ended | .waiting => .error (.channel (sender ++ " closed before replying"))

/-- Lines as the bytes that carry them. -/
def streamOf (lines : List String) : Bytes :=
  lines.flatMap fun line => bytesOf line ++ [lineFeed]

end ArithmeticCloud.Transport
