import IconSubset.Toml.Scalar

/-!
# TOML documents

A document is a list of assignments and of headers. Each header opens a table, or one more table of
a list, for the assignments that follow it. Nothing may be set twice, and no table may be opened
twice: a table that has a header takes no more fields through names with dots, and one that was
written in braces takes no more fields at all.
-/

namespace IconSubset.Toml

open Config (Value lookup putField)

/-- How a table came about. -/
inductive TableKind where
  /-- Because a header names a table inside it. -/
  | implied
  /-- Through names with dots. -/
  | dotted
  /-- Through a header of its own. -/
  | headed
deriving DecidableEq, Repr, Inhabited

/-- What stands under a name while a document is being read. -/
inductive Item where
  | value (v : Value)
  | table (kind : TableKind) (fields : List (String × Item))
  /-- A list of tables, the latest apart. -/
  | tables (latest : List (String × Item)) (earlier : List (List (String × Item)))
deriving Repr, Inhabited

/-- Fields while a document is being read. -/
abbrev Fields := List (String × Item)

/-- Sets what names with dots lead to. `tableKind` is the kind of the table that holds the
fields. -/
def assign (v : Value) (tableKind : TableKind) : List String → Fields → Option Fields
  | [], _ => none
  | [name], fields =>
    match lookup name fields with
    | none => if tableKind = .implied then none else some (putField name (.value v) fields)
    | some _ => none
  | name :: names, fields =>
    match lookup name fields with
    | none => (assign v .dotted names []).map fun fs => putField name (.table .dotted fs) fields
    | some (.value _) => none
    | some (.table .headed _) => none
    | some (.table kind fs) =>
      (assign v kind names fs).map fun fs => putField name (.table kind fs) fields
    | some (.tables latest earlier) =>
      if names.length ≤ 1 then none
      else
        (assign v .headed names latest).map fun fs => putField name (.tables fs earlier) fields

/-- Changes what stands under the last of the names, which lead through tables and through the
latest of lists of tables. -/
def change (f : Option Item → Option Item) : List String → Fields → Option Fields
  | [], _ => none
  | [name], fields => (f (lookup name fields)).map fun item => putField name item fields
  | name :: names, fields =>
    match lookup name fields with
    | none => (change f names []).map fun fs => putField name (.table .implied fs) fields
    | some (.value _) => none
    | some (.table kind fs) =>
      (change f names fs).map fun fs => putField name (.table kind fs) fields
    | some (.tables latest earlier) =>
      (change f names latest).map fun fs => putField name (.tables fs earlier) fields

mutual

/-- An item as a value. -/
def Item.toValue : Item → Value
  | .value v => v
  | .table _ fields => .table (fieldValues fields)
  | .tables latest earlier => .list ((tableValues earlier).reverse ++ [.table (fieldValues latest)])

/-- The values of fields. -/
def fieldValues : List (String × Item) → List (String × Value)
  | [] => []
  | (n, item) :: rest => (n, item.toValue) :: fieldValues rest

/-- The values of tables. -/
def tableValues : List (List (String × Item)) → List Value
  | [] => []
  | fields :: rest => .table (fieldValues fields) :: tableValues rest

end

/-- The fields of a table in braces. -/
def inlineFields? (entries : List (List String × Value)) : Option Fields :=
  entries.foldlM (fun fields (names, v) => assign v .headed names fields) []

mutual

/-- A value. `fuel` bounds the number of steps. -/
def value? : (fuel : Nat) → List Char → Option (Value × List Char)
  | 0, _ => none
  | fuel + 1, cs =>
    match cs with
    | '"' :: _ | '\'' :: _ => (string? cs).map fun (text, rest) => (.string text, rest)
    | '[' :: rest => (items? fuel rest).map fun (items, rest) => (.list items, rest)
    | '{' :: rest =>
      match skipSpace rest with
      | '}' :: rest => some (.table [], rest)
      | _ =>
        (entries? fuel rest).bind fun (entries, rest) =>
          (inlineFields? entries).map fun fields => (.table (fieldValues fields), rest)
    | _ => scalar? cs

/-- The items of a list up to its bracket. -/
def items? : (fuel : Nat) → List Char → Option (List Value × List Char)
  | 0, _ => none
  | fuel + 1, cs =>
    match skipLines (cs.length + 1) cs with
    | ']' :: rest => some ([], rest)
    | cs =>
      match value? fuel cs with
      | none => none
      | some (v, rest) =>
        match skipLines (rest.length + 1) rest with
        | ',' :: rest => (items? fuel rest).map fun (items, rest) => (v :: items, rest)
        | ']' :: rest => some ([v], rest)
        | _ => none

/-- The assignments in braces up to the closing one. -/
def entries? : (fuel : Nat) → List Char → Option (List (List String × Value) × List Char)
  | 0, _ => none
  | fuel + 1, cs =>
    match assignment? fuel cs with
    | none => none
    | some (entry, rest) =>
      match skipSpace rest with
      | ',' :: rest => (entries? fuel rest).map fun (entries, rest) => (entry :: entries, rest)
      | '}' :: rest => some ([entry], rest)
      | _ => none

/-- An assignment. -/
def assignment? : (fuel : Nat) → List Char → Option ((List String × Value) × List Char)
  | 0, _ => none
  | fuel + 1, cs =>
    match names? (cs.length + 1) cs with
    | some (names, '=' :: rest) =>
      (value? fuel (skipSpace rest)).map fun (v, rest) => ((names, v), rest)
    | _ => none

end

/-- A line of a document that says something. -/
inductive Line where
  | entry (names : List String) (v : Value)
  | header (names : List String)
  | listHeader (names : List String)
deriving Repr, Inhabited

/-- The names of a header up to its bracket. -/
def headerNames? (cs : List Char) : Option (List String × List Char) :=
  match names? (cs.length + 1) cs with
  | some (names, ']' :: rest) => some (names, rest)
  | _ => none

/-- An assignment or a header. -/
def line? (cs : List Char) : Option (Line × List Char) :=
  match cs with
  | '[' :: '[' :: rest =>
    match headerNames? rest with
    | some (names, ']' :: rest) => some (.listHeader names, rest)
    | _ => none
  | '[' :: rest => (headerNames? rest).map fun (names, rest) => (.header names, rest)
  | _ => (assignment? (3 * cs.length + 3) cs).map fun ((names, v), rest) => (.entry names v, rest)

/-- The lines of a document. `fuel` bounds their number. -/
def lines? : (fuel : Nat) → List Char → Option (List Line)
  | 0, _ => none
  | fuel + 1, cs =>
    match skipLines (cs.length + 1) cs with
    | [] => some []
    | cs =>
      match line? cs with
      | none => none
      | some (line, rest) =>
        match skipComment rest with
        | [] => some [line]
        | rest =>
          match afterNewline rest with
          | some rest => (lines? fuel rest).map (line :: ·)
          | none => none

/-- Lines from one header up to the next. -/
structure Section where
  /-- The names of the header, none at the start of a document. -/
  names : List String
  /-- Whether the header opens one more table of a list. -/
  isList : Bool := false
  /-- The assignments. -/
  entries : List (List String × Value) := []
deriving Repr, Inhabited

/-- The sections of a document, given the one that lines belong to now. -/
def sections (current : Section) : List Line → List Section
  | [] => [current]
  | .entry names v :: rest =>
    sections { current with entries := current.entries ++ [(names, v)] } rest
  | .header names :: rest => current :: sections { names } rest
  | .listHeader names :: rest => current :: sections { names, isList := true } rest

/-- Sets what the assignments of a section say. -/
def Section.assignAll (s : Section) (fields : Fields) : Option Fields :=
  s.entries.foldlM (fun fields (names, v) => assign v .headed names fields) fields

/-- What a section makes of what stands under its name. -/
def Section.open (s : Section) (found : Option Item) : Option Item :=
  if s.isList then
    match found with
    | none => (s.assignAll []).map fun fs => .tables fs []
    | some (.tables latest earlier) => (s.assignAll []).map fun fs => .tables fs (latest :: earlier)
    | some _ => none
  else
    match found with
    | none => (s.assignAll []).map (.table .headed)
    | some (.table .implied fs) => (s.assignAll fs).map (.table .headed)
    | some _ => none

/-- The fields of a document with those of one more section. -/
def Section.add (fields : Fields) (s : Section) : Option Fields :=
  if s.names = [] then s.assignAll fields else change s.open s.names fields

/-- The characters after a byte order mark. -/
def dropByteOrderMark : List Char → List Char
  | '\ufeff' :: cs => cs
  | cs => cs

/-- The fields of a document; nothing when it is not well formed. -/
def read? (text : String) : Option (List (String × Value)) := do
  let cs := dropByteOrderMark text.toList
  let lines ← lines? (cs.length + 1) cs
  let fields ← (sections { names := [] } lines).foldlM Section.add []
  return fieldValues fields

end IconSubset.Toml
