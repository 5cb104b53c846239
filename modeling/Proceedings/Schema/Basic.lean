import Proceedings.Value.Quoted

/-! # Schemas

A schema is a list of keywords, each of which a value may violate at some place in it. All
violations are collected in the order of the keywords; one of them is reported, at the shortest
path, and of those the one with the greatest path.
-/

namespace Proceedings

/-- The types that a schema can ask for. A truth value is no number, and a tuple no array. -/
inductive JsonType where
  | string
  | number
  | boolean
  | array
  | object

namespace JsonType

def name : JsonType → String
  | .string => "string"
  | .number => "number"
  | .boolean => "boolean"
  | .array => "array"
  | .object => "object"

def admits : JsonType → Value → Bool
  | .string, v => v.text?.isSome
  | .number, .int _ => true
  | .number, .float _ => true
  | .boolean, .bool _ => true
  | .array, .list _ => true
  | .object, .object _ => true
  | _, _ => false

end JsonType

/-- A pattern for texts, with the text that messages show for it. -/
structure Pattern where
  spelling : String
  accepts : Text → Bool

mutual

/-- A schema holds of a value that violates none of its keywords. -/
inductive Schema where
  | of (keywords : List Keyword)

/-- A demand on values; most concern values of one type only. -/
inductive Keyword where
  | type (t : JsonType)
  | minLength
  | minItems
  | pattern (p : Pattern)
  | enum (values : List String)
  | const (value : String)
  | required (keys : List String)
  | closed
  | properties (schemas : List (String × Schema))
  | items (schema : Schema)
  | choice (condition consequence alternative : Schema)
  | not (schema : Schema)
  | anyOf (schemas : List Schema)

end

/-- A step into a value: to the value under a key or to an item. -/
inductive Step where
  | key (k : Text)
  | index (i : Nat)
  deriving DecidableEq

/-- A place at which a value violates a keyword. -/
structure Violation where
  path : List Step
  keyword : String
  message : String
  /-- Whether the value there is of the type that the keyword's schema names, if it names one. -/
  typed : Bool

namespace Keyword

/-- The type that a list of keywords asks for. -/
def declaredType? : List Keyword → Option JsonType
  | [] => none
  | .type t :: _ => some t
  | _ :: rest => declaredType? rest

/-- The keys that a list of keywords names a schema for. -/
def declaredKeys : List Keyword → List Text
  | [] => []
  | .properties schemas :: rest => schemas.map (Text.ofString ·.1) ++ declaredKeys rest
  | _ :: rest => declaredKeys rest

end Keyword

mutual

/-- The object that spells a schema. -/
def Schema.spelled : Schema → Value
  | .of keywords => .object (Keyword.spelledFields keywords)

/-- The fields that spell keywords. -/
def Keyword.spelledFields : List Keyword → List (Text × Value)
  | [] => []
  | k :: rest => k.spelled ++ Keyword.spelledFields rest

def Keyword.spelled : Keyword → List (Text × Value)
  | .type t => [(Text.ofString "type", .str t.name)]
  | .minLength => [(Text.ofString "minLength", .int 1)]
  | .minItems => [(Text.ofString "minItems", .int 1)]
  | .pattern p => [(Text.ofString "pattern", .str p.spelling)]
  | .enum values => [(Text.ofString "enum", .list (values.map Value.str))]
  | .const value => [(Text.ofString "const", .str value)]
  | .required keys => [(Text.ofString "required", .list (keys.map Value.str))]
  | .closed => [(Text.ofString "additionalProperties", .bool false)]
  | .properties schemas => [(Text.ofString "properties", .object (Schema.spelledByKey schemas))]
  | .items schema => [(Text.ofString "items", schema.spelled)]
  | .choice condition consequence alternative =>
    [(Text.ofString "if", condition.spelled), (Text.ofString "then", consequence.spelled),
      (Text.ofString "else", alternative.spelled)]
  | .not schema => [(Text.ofString "not", schema.spelled)]
  | .anyOf schemas => [(Text.ofString "anyOf", .list (Schema.spelledItems schemas))]

def Schema.spelledByKey : List (String × Schema) → List (Text × Value)
  | [] => []
  | (key, schema) :: rest => (Text.ofString key, schema.spelled) :: Schema.spelledByKey rest

def Schema.spelledItems : List Schema → List Value
  | [] => []
  | schema :: rest => schema.spelled :: Schema.spelledItems rest

end

namespace Violation

/-- A violation at the root of a value. -/
def here (typed : Bool) (keyword message : String) : Violation := ⟨[], keyword, message, typed⟩

/-- A violation one step further from the root. -/
def under (step : Step) (e : Violation) : Violation :=
  ⟨step :: e.path, e.keyword, e.message, e.typed⟩

end Violation

/-- The keys of an object that are not declared, in order. -/
def extraKeys (declared : List Text) (fields : Fields) : List Text :=
  ((fields.map (·.1)).filter fun k => !declared.contains k).mergeSort fun k l => !Text.less l k

def extraKeysMessage (extra : List Text) : String :=
  let names := String.intercalate ", " (extra.map Text.quoted)
  let verb := if extra.length = 1 then "was" else "were"
  s!"Additional properties are not allowed ({names} {verb} unexpected)"

mutual

/-- The violations of a schema by a value. -/
def Schema.violations : Schema → Value → List Violation
  | .of keywords, v =>
    Keyword.allViolations ((Keyword.declaredType? keywords).any (·.admits v))
      (Keyword.declaredKeys keywords) keywords v

def Keyword.allViolations (typed : Bool) (declared : List Text) :
    List Keyword → Value → List Violation
  | [], _ => []
  | k :: rest, v => k.violations typed declared v ++ Keyword.allViolations typed declared rest v

def Keyword.violations (typed : Bool) (declared : List Text) : Keyword → Value → List Violation
  | .type t, v =>
    if t.admits v then []
    else [.here typed "type" s!"{v.quoted} is not of type '{t.name}'"]
  | .minLength, v =>
    if v.text? = some [] then [.here typed "minLength" s!"{v.quoted} should be non-empty"] else []
  | .minItems, v =>
    match v with
    | .list [] => [.here typed "minItems" s!"{v.quoted} should be non-empty"]
    | _ => []
  | .pattern p, v =>
    match v.text? with
    | some t =>
      if p.accepts t then []
      else [.here typed "pattern" s!"{v.quoted} does not match {quoted p.spelling}"]
    | none => []
  | .enum values, v =>
    if values.any fun s => v.text? == some (Text.ofString s) then []
    else
      let shown := (Value.list (values.map Value.str)).quoted
      [.here typed "enum" s!"{v.quoted} is not one of {shown}"]
  | .const value, v =>
    if v.text? = some (Text.ofString value) then []
    else [.here typed "const" s!"{quoted value} was expected"]
  | .required keys, v =>
    match v with
    | .object fields =>
      (keys.filter fun key => !Fields.has fields (Text.ofString key)).map fun key =>
        .here typed "required" s!"{quoted key} is a required property"
    | _ => []
  | .closed, v =>
    match v with
    | .object fields =>
      let extra := extraKeys declared fields
      if extra.isEmpty then []
      else [.here typed "additionalProperties" (extraKeysMessage extra)]
    | _ => []
  | .properties schemas, v =>
    match v with
    | .object fields => Schema.propertyViolations schemas fields
    | _ => []
  | .items schema, v =>
    match v with
    | .list items =>
      (items.map schema.violations).zipIdx.flatMap fun (found, i) =>
        found.map (Violation.under (.index i))
    | _ => []
  | .choice condition consequence alternative, v =>
    if (condition.violations v).isEmpty then consequence.violations v
    else alternative.violations v
  | .not schema, v =>
    if (schema.violations v).isEmpty then
      [.here typed "not" s!"{v.quoted} should not be valid under {schema.spelled.quoted}"]
    else []
  | .anyOf schemas, v =>
    if Schema.anyHolds schemas v then []
    else [.here typed "anyOf" s!"{v.quoted} is not valid under any of the given schemas"]

def Schema.propertyViolations : List (String × Schema) → Fields → List Violation
  | [], _ => []
  | (key, schema) :: rest, fields =>
    (match Fields.get? fields (Text.ofString key) with
      | some v => (schema.violations v).map (Violation.under (.key (Text.ofString key)))
      | none => []) ++ Schema.propertyViolations rest fields

/-- Whether one of the schemas holds. -/
def Schema.anyHolds : List Schema → Value → Bool
  | [], _ => false
  | schema :: rest, v => (schema.violations v).isEmpty || Schema.anyHolds rest v

end

def Schema.admits (s : Schema) (v : Value) : Bool :=
  (s.violations v).isEmpty

namespace Violation

/-- The order of steps: keys by their code points, indexes by number. -/
def stepLess : Step → Step → Bool
  | .key k, .key l => Text.less k l
  | .index i, .index j => i < j
  | .index _, .key _ => true
  | .key _, .index _ => false

/-- The order of paths, step by step. -/
def pathLess : List Step → List Step → Bool
  | [], [] => false
  | [], _ :: _ => true
  | _ :: _, [] => false
  | s :: p, t :: q => stepLess s t || (s == t && pathLess p q)

/-- Whether a violation is reported rather than another: its path is shorter, or as long and
greater; or the paths are equal and its value is not of the type asked for, while the other's is. -/
def outranks (d e : Violation) : Bool :=
  if d.path.length ≠ e.path.length then d.path.length < e.path.length
  else if d.path ≠ e.path then pathLess e.path d.path
  else !d.typed && e.typed

/-- The violation that is reported, the first of equal ones. -/
def foremost? : List Violation → Option Violation
  | [] => none
  | e :: rest => some (rest.foldl (fun best d => if d.outranks best then d else best) e)

/-- The message with its heading, as a log shows it. -/
def report (e : Violation) : String :=
  s!"{e.message}\n\nFailed validating {quoted e.keyword} in schema"

end Violation

/-- Checks a value against a schema. -/
def Schema.validate (s : Schema) (v : Value) : Except Violation Unit :=
  match Violation.foremost? (s.violations v) with
  | none => .ok ()
  | some e => .error e

end Proceedings
