import RecordFilter.Declaration.Attribute

namespace RecordFilter

-- `ident` is the name as written, with `r#` in front where a keyword serves as a name.
structure Member where
  attributes : List Attribute
  visibility : List Token
  ident      : String
  type       : List Token

inductive Declaration.Body
  | named (members : List Member)
  | tuple
  | unit
  | enumeration
  | union

structure Declaration where
  visibility : List Token
  name       : String
  parameters : List Token
  body       : Declaration.Body

inductive DeclarationError
  | generic
  | notNamed
  | notStruct
  | badAttribute (error : AttributeError)
  | registered (name ident : String)
deriving DecidableEq

def DeclarationError.message : DeclarationError → String
  | generic               => "Filterable cannot be derived for generic types"
  | notNamed              => "Only named fields are supported"
  | notStruct             => "Only structs are supported"
  | badAttribute error    => error.message
  | registered name ident => "field name \"" ++ name ++ "\" is already registered by `" ++ ident ++ "`"

def plainName (ident : String) : String :=
  String.ofList <| match ident.toList with
    | 'r' :: '#' :: cs => cs
    | cs               => cs

structure MemberDescription where
  ident      : String
  visibility : List Token
  type       : List Token
  name       : String

structure Description where
  name       : String
  visibility : List Token
  fields     : List MemberDescription

namespace Description

def collection (d : Description) : String := d.name

def accessors (d : Description) : String := plainName d.name ++ "Fields"

end Description

namespace Member

-- A member that is skipped has no description.
def describe? (m : Member) : Except AttributeError (Option MemberDescription) := do
  let options ← FieldOptions.ofAttributes m.attributes
  return if options.skip then
    none
  else
    some ⟨m.ident, m.visibility, m.type, options.rename.getD (plainName m.ident)⟩

end Member

namespace Declaration

def IsGeneric (d : Declaration) : Prop :=
  d.parameters.isEmpty = false

instance : DecidablePred IsGeneric :=
  fun d => inferInstanceAs (Decidable (d.parameters.isEmpty = false))

-- One more member after those that are already described.
def extend (fields : List MemberDescription) (m : Member) : Except DeclarationError (List MemberDescription) := do
  match ← m.describe?.mapError .badAttribute with
  | none => return fields
  | some field =>
    match fields.find? (·.name = field.name) with
    | some earlier => throw (.registered field.name earlier.ident)
    | none         => return fields ++ [field]

def members : Body → Except DeclarationError (List Member)
  | .named members       => .ok members
  | .tuple | .unit        => .error .notNamed
  | .enumeration | .union => .error .notStruct

def describe (d : Declaration) : Except DeclarationError Description := do
  if d.IsGeneric then
    throw .generic
  let fields ← (← members d.body).foldlM extend []
  return ⟨d.name, d.visibility, fields⟩

end Declaration
end RecordFilter
