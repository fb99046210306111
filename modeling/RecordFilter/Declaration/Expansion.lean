import RecordFilter.Declaration.Description

namespace RecordFilter

namespace Token

-- The sign between the names of a path.
def scope : List Token := sign [':', ':']

def arrow : List Token := sign ['-', '>']

-- A path from the root of all names.
def path (names : List String) : List Token :=
  names.flatMap fun name => scope ++ [word name]

def core (names : List String) : List Token :=
  path ("dynfilter" :: "core" :: names)

def parenthesised (tokens : List Token) : Token := group .parentheses tokens

def bracketed (tokens : List Token) : Token := group .brackets tokens

def braced (tokens : List Token) : Token := group .braces tokens

def attributed (tokens : List Token) : List Token :=
  [alone '#', bracketed tokens]

def angled (tokens : List Token) : List Token :=
  alone '<' :: tokens ++ [alone '>']

end Token

namespace Description

open Token

section Lists

def idents (d : Description) : List String := d.fields.map (·.ident)

def visibilities (d : Description) : List (List Token) := d.fields.map (·.visibility)

def types (d : Description) : List (List Token) := d.fields.map (·.type)

def names (d : Description) : List String := d.fields.map (·.name)

end Lists

-- The function that reads a field from a record.
def getter (d : Description) (visibility : List Token) (ident : String) : List Token :=
  visibility ++ [word "fn", word ident, parenthesised [word "item", alone ':', alone '&', word d.name]] ++
  arrow ++ core ["ValueRef"] ++ angled [lifetime "_"] ++
  [braced (core ["FieldValue", "value_ref"] ++ [parenthesised [alone '&', word "item", alone '.', word ident]])]

-- The entry of a field in the list.
def entry (d : Description) (name : String) (type : List Token) (ident : String) : List Token :=
  core ["Field", "new"] ++
  [parenthesised (
    [ofText name, alone ','] ++
    angled (type ++ [word "as"] ++ core ["FieldValue"]) ++ scope ++ [word "VALUE_TYPE", alone ','] ++
    [word d.accessors] ++ scope ++ [word ident, alone ',']),
  alone ',']

-- A part that is repeated takes one element of each of its lists at a time, until one of them ends.
def repeatedGetters (d : Description) : List Token :=
  (d.visibilities.zip d.idents).flatMap fun (visibility, ident) => d.getter visibility ident

def repeatedEntries (d : Description) : List Token :=
  (d.names.zip (d.types.zip d.idents)).flatMap fun (name, type, ident) => d.entry name type ident

def doc (d : Description) : String :=
  "Typed field accessors for [`" ++ d.name ++ "`], generated by `#[derive(Filterable)]`."

def accessorType (d : Description) : List Token :=
  attributed [word "doc", alone '=', ofText d.doc] ++
  d.visibility ++ [word "struct", word d.accessors, alone ';']

def getters (d : Description) : List Token :=
  attributed [word "automatically_derived"] ++
  attributed [word "allow", parenthesised [word "non_snake_case"]] ++
  [word "impl", word d.accessors, braced d.repeatedGetters]

def fieldType (of : String) : List Token :=
  core ["Field"] ++ angled [word of]

def fieldList (d : Description) : List Token :=
  [word "const", word "FIELDS", alone ':', alone '&', bracketed (fieldType d.name), alone '=', alone '&',
    bracketed d.repeatedEntries, alone ';', word "FIELDS"]

def registration (d : Description) : List Token :=
  attributed [word "automatically_derived"] ++
  [word "impl"] ++ core ["Filterable"] ++ [word "for", word d.name, braced (
    [word "fn", word "collection", parenthesised []] ++ arrow ++ [alone '&', lifetime "static", word "str",
      braced [ofText d.collection]] ++
    [word "fn", word "fields", parenthesised []] ++ arrow ++ [alone '&', lifetime "static",
      bracketed (fieldType "Self"), braced d.fieldList])]

def expansion (d : Description) : List Token :=
  d.accessorType ++ d.getters ++ d.registration

end Description

-- In place of the code, an error asks the compiler to stop with its message.
def DeclarationError.expansion (error : DeclarationError) : List Token :=
  Token.path ["core", "compile_error"] ++ [Token.alone '!', Token.braced [Token.ofText error.message]]

def Declaration.expansion (d : Declaration) : List Token :=
  match d.describe with
  | .ok description => description.expansion
  | .error error    => error.expansion

end RecordFilter
