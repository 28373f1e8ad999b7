import ArithmeticCloud.Wire.Message

/-!
Contract: protocols that are derived from the declaration of a type.

Owns:
- declarations: parameters, and variants with their annotations and fields;
- the schema that is derived, and which declarations are refused with which text.
  Parameters are looked at first, then the variants in order, and at the end the
  keywords of all of them.

Does not own: the syntax of declarations, and encoding and decoding, which are the
same for every schema.
-/

namespace ArithmeticCloud.Wire

open Text

/-- The kinds of generic parameter. -/
inductive Parameter where
  | type
  | lifetime
  | const
deriving DecidableEq, Repr

structure VariantDeclaration where
  /-- The name in lower case, which is the keyword unless an annotation gives one. -/
  name : String
  annotations : List String
  fields : List Field
deriving DecidableEq, Repr

structure Declaration where
  parameters : List Parameter
  /-- Only enumerations have variants. -/
  variants? : Option (List VariantDeclaration)
deriving DecidableEq, Repr

/-! ## What can be wrong -/

inductive DeclarationError where
  | lifetimeParameter
  | constParameter
  | notEnumeration
  | severalAnnotations
  | brokenKeyword
  | duplicateKeyword (keyword : String)
deriving DecidableEq, Repr

def DeclarationError.message : DeclarationError → String
  | .lifetimeParameter => "WireMessage does not allow lifetime parameters."
  | .constParameter => "WireMessage does not allow const parameters."
  | .notEnumeration => "WireMessage only supports enums."
  | .severalAnnotations =>
      "WireMessage does not allow more than one 'wire' annotation on a variant."
  | .brokenKeyword => "Wire keywords must be non-empty and contain no whitespace."
  | .duplicateKeyword keyword => "Duplicate wire keyword `" ++ keyword ++ "`"

def Parameter.error? : Parameter → Option DeclarationError
  | .type => none
  | .lifetime => some .lifetimeParameter
  | .const => some .constParameter

/-! ## Derivation -/

namespace VariantDeclaration

def keyword (declared : VariantDeclaration) : Except DeclarationError String :=
  match declared.annotations with
  | [] => .ok declared.name
  | [given] => .ok given
  | _ => .error .severalAnnotations

def derive (declared : VariantDeclaration) : Except DeclarationError Variant :=
  declared.keyword.bind fun keyword =>
    if keyword.toList.isEmpty || keyword.toList.any isBlank then .error .brokenKeyword
    else .ok ⟨keyword, declared.fields⟩

end VariantDeclaration

namespace Schema

/-- The least keyword that two variants have: sorting brings them together. -/
def duplicate? (schema : Schema) : Option String :=
  let sorted := schema.keywords.mergeSort fun left right => decide (left ≤ right)
  ((sorted.zip sorted.tail).find? fun pair => pair.1 == pair.2).map Prod.snd

/-- The schema, unless two of its variants cannot be told apart. -/
def checked (schema : Schema) : Except DeclarationError Schema :=
  match schema.duplicate? with
  | some keyword => .error (.duplicateKeyword keyword)
  | none => .ok schema

end Schema

def Declaration.derive (declaration : Declaration) : Except DeclarationError Schema :=
  match declaration.parameters.findSome? Parameter.error?, declaration.variants? with
  | some problem, _ => .error problem
  | none, none => .error .notEnumeration
  | none, some declared => (declared.mapM VariantDeclaration.derive).bind Schema.checked

end ArithmeticCloud.Wire
