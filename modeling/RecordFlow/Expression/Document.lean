import RecordFlow.Condition.Document
import RecordFlow.Document.Tagged
import RecordFlow.Expression.Basic

/-!
# Expressions as documents

The kind of an expression stands in the tag `type`, and the operation of a date, list or text
expression in the tag `operation`.

An expression is read from the leaves upward: every part of a document carries what it is when it is
read as an expression and as a list of expressions. So each part is read once.

## Main definitions

* `Expression.toJson` — the document of an expression
* `Expression.read` — the expression of a document
-/

namespace RecordFlow

namespace MathOp

/-- The operators by name; the first name is the one that is written. -/
def names : List (String × MathOp) :=
  [("+", add), ("add", add), ("-", subtract), ("subtract", subtract), ("*", multiply),
    ("multiply", multiply), ("/", divide), ("divide", divide), ("%", modulo), ("modulo", modulo),
    ("round", round), ("floor", floor), ("ceil", ceil), ("abs", abs)]

end MathOp

namespace DateUnit

/-- The units by name; the first name is the one that is written. -/
def names : List (String × DateUnit) :=
  [("day", day), ("days", day), ("week", week), ("weeks", week),
    ("month", month), ("months", month), ("year", year), ("years", year), ("hour", hour),
    ("hours", hour), ("minute", minute), ("minutes", minute),
    ("second", second), ("seconds", second)]

end DateUnit

namespace DateOp

/-- The tag and the fields of an operation. -/
def toFields : DateOp → List (String × Json)
  | now => [("operation", .str "now")]
  | format field template =>
    [("operation", .str "format"), ("field", .str field), ("format", .str template)]
  | add field amount unit =>
    [("operation", .str "add"), ("field", .str field), ("amount", .int amount),
      ("unit", .str (nameIn DateUnit.names unit))]
  | diff field other unit =>
    [("operation", .str "diff"), ("field", .str field), ("compareTo", .str other),
      ("unit", .str (nameIn DateUnit.names unit))]
  | parse field template =>
    [("operation", .str "parse"), ("field", .str field)] ++ optionalField "format" Json.str template
  | startOf field unit =>
    [("operation", .str "startOf"), ("field", .str field),
      ("unit", .str (nameIn DateUnit.names unit))]
  | endOf field unit =>
    [("operation", .str "endOf"), ("field", .str field),
      ("unit", .str (nameIn DateUnit.names unit))]

end DateOp

namespace ListOp

/-- The tag and the fields of an operation on the list at a path. -/
def toFields (path : String) : ListOp → List (String × Json)
  | length => [("operation", .str "length"), ("path", .str path)]
  | first => [("operation", .str "first"), ("path", .str path)]
  | last => [("operation", .str "last"), ("path", .str path)]
  | join separator =>
    [("operation", .str "join"), ("path", .str path), ("separator", .str separator)]
  | includes value =>
    [("operation", .str "includes"), ("path", .str path), ("value", .ofValue value)]
  | .at index => [("operation", .str "at"), ("path", .str path), ("index", .int index)]
  | slice start stop =>
    [("operation", .str "slice"), ("path", .str path), ("start", .int start)] ++
      optionalField "end" Json.int stop

end ListOp

namespace TextOp

/-- The tag and the fields of an operation on the text at a path. -/
def toFields (path : String) : TextOp → List (String × Json)
  | upper => [("operation", .str "upper"), ("path", .str path)]
  | lower => [("operation", .str "lower"), ("path", .str path)]
  | trim => [("operation", .str "trim"), ("path", .str path)]
  | split separator =>
    [("operation", .str "split"), ("path", .str path), ("separator", .str separator)]
  | substring start stop =>
    [("operation", .str "substring"), ("path", .str path), ("start", .int start)] ++
      optionalField "end" Json.int stop
  | replace search replacement all =>
    [("operation", .str "replace"), ("path", .str path), ("search", .str search),
      ("replacement", .str replacement), ("all", .bool all)]
  | length => [("operation", .str "length"), ("path", .str path)]
  | padStart width pad =>
    [("operation", .str "padStart"), ("path", .str path), ("length", .int width), ("pad", .str pad)]
  | padEnd width pad =>
    [("operation", .str "padEnd"), ("path", .str path), ("length", .int width), ("pad", .str pad)]

end TextOp

namespace Expression

mutual

/-- The document of an expression. -/
def toJson : Expression → Json
  | field path => .obj [("type", .str "field"), ("path", .str path)]
  | literal value => .obj [("type", .str "literal"), ("value", .ofValue value)]
  | concat values separator =>
    .obj [("type", .str "concat"), ("values", .arr (toJsons values)), ("separator", .str separator)]
  | template source => .obj [("type", .str "template"), ("template", .str source)]
  | math op left right =>
    .obj ([("type", .str "math"), ("operator", .str (nameIn MathOp.names op)),
      ("left", toJson left)] ++ toFieldOption "right" right)
  | coalesce values => .obj [("type", .str "coalesce"), ("values", .arr (toJsons values))]
  | conditional condition positive negative =>
    .obj ([("type", .str "conditional"), ("condition", condition.toJson),
      ("then", toJson positive)] ++ toFieldOption "else" negative)
  | date op => .obj (("type", .str "date") :: op.toFields)
  | list path op => .obj (("type", .str "array") :: op.toFields path)
  | text path op => .obj (("type", .str "string") :: op.toFields path)

/-- The documents of several expressions. -/
def toJsons : List Expression → List Json
  | [] => []
  | e :: es => toJson e :: toJsons es

/-- A field with an expression, or no field. -/
def toFieldOption (name : String) : Option Expression → List (String × Json)
  | none => []
  | some e => [(name, toJson e)]

end

/-- A part of a document that was set aside, with what it is as an expression and as a list of
expressions. -/
structure Part where
  json : Json
  expression : Except Rejection Expression
  expressions : Except Rejection (List Expression)

namespace Part

/-- A part that is neither an expression nor a list of expressions. -/
def plain (json : Json) : Part :=
  let found := (View.found (Json.viewWith id json))
  { json
    expression := .error ⟨.invalidType found "internally tagged enum Expression", none⟩
    expressions := .error ⟨.invalidType found "a sequence", none⟩ }

instance : Document Part := .inMemory .setAside plain Part.json

end Part

/-- The kinds of expressions. -/
inductive Kind where
  | field
  | literal
  | concat
  | template
  | math
  | coalesce
  | conditional
  | date
  | list
  | text

/-- The kinds by name. -/
def kinds : List (String × Kind) :=
  [("field", .field), ("literal", .literal), ("concat", .concat), ("template", .template),
    ("math", .math), ("coalesce", .coalesce), ("conditional", .conditional), ("date", .date),
    ("array", .list), ("string", .text)]

/-- The operations on dates by name; an operation reads its fields. -/
def dateOps : List (String × (Content Part → Except Rejection DateOp)) :=
  let field : FieldReader Part String := .required "field" Reader.text
  let unit : Reader Part DateUnit := Reader.choice DateUnit.names (DateUnit.names.map Prod.fst)
  [("now", readNoFields .now),
    ("format", readContent "struct variant DateExpression::Format"
      (DateOp.format <$> field <*> .required "format" Reader.text)),
    ("add", readContent "struct variant DateExpression::Add"
      (DateOp.add <$> field <*> .required "amount" Reader.int64 <*> .required "unit" unit)),
    ("diff", readContent "struct variant DateExpression::Diff"
      (DateOp.diff <$> field <*> .required "compareTo" Reader.text <*>
        .withDefault "unit" unit .day)),
    ("parse", readContent "struct variant DateExpression::Parse"
      (DateOp.parse <$> field <*> .optional "format" Reader.text)),
    ("startOf", readContent "struct variant DateExpression::StartOf"
      (DateOp.startOf <$> field <*> .required "unit" unit)),
    ("endOf", readContent "struct variant DateExpression::EndOf"
      (DateOp.endOf <$> field <*> .required "unit" unit))]

/-- The operations on lists by name. -/
def listOps : List (String × (Content Part → Except Rejection Expression)) :=
  let path : FieldReader Part String := .required "path" Reader.text
  let on (op : ListOp) (path : String) := list path op
  [("length", readContent "struct variant ArrayExpression::Length" (on .length <$> path)),
    ("first", readContent "struct variant ArrayExpression::First" (on .first <$> path)),
    ("last", readContent "struct variant ArrayExpression::Last" (on .last <$> path)),
    ("join", readContent "struct variant ArrayExpression::Join"
      ((fun path separator => on (.join separator) path) <$> path
        <*> .withDefault "separator" Reader.text ",")),
    ("includes", readContent "struct variant ArrayExpression::Includes"
      ((fun path value => on (.includes value) path) <$> path <*> .required "value" Reader.value)),
    ("at", readContent "struct variant ArrayExpression::At"
      ((fun path index => on (.at index) path) <$> path <*> .required "index" Reader.int64)),
    ("slice", readContent "struct variant ArrayExpression::Slice"
      ((fun path start stop => on (.slice start stop) path) <$> path
        <*> .withDefault "start" Reader.int64 0 <*> .optional "end" Reader.int64))]

/-- The operations on texts by name. -/
def textOps : List (String × (Content Part → Except Rejection Expression)) :=
  let path : FieldReader Part String := .required "path" Reader.text
  let on (op : TextOp) (path : String) := text path op
  [("upper", readContent "struct variant StringExpression::Upper" (on .upper <$> path)),
    ("lower", readContent "struct variant StringExpression::Lower" (on .lower <$> path)),
    ("trim", readContent "struct variant StringExpression::Trim" (on .trim <$> path)),
    ("split", readContent "struct variant StringExpression::Split"
      ((fun path separator => on (.split separator) path) <$> path
        <*> .required "separator" Reader.text)),
    ("substring", readContent "struct variant StringExpression::Substring"
      ((fun path start stop => on (.substring start stop) path) <$> path
        <*> .withDefault "start" Reader.int64 0 <*> .optional "end" Reader.int64)),
    ("replace", readContent "struct variant StringExpression::Replace"
      ((fun path search replacement all => on (.replace search replacement all) path) <$> path
        <*> .required "search" Reader.text <*> .required "replacement" Reader.text
        <*> .withDefault "all" Reader.boolean false)),
    ("length", readContent "struct variant StringExpression::Length" (on .length <$> path)),
    ("padStart", readContent "struct variant StringExpression::PadStart"
      ((fun path width pad => on (.padStart width pad) path) <$> path
        <*> .required "length" Reader.size <*> .withDefault "pad" Reader.text " ")),
    ("padEnd", readContent "struct variant StringExpression::PadEnd"
      ((fun path width pad => on (.padEnd width pad) path) <$> path
        <*> .required "length" Reader.size <*> .withDefault "pad" Reader.text " "))]

/-- Reads an operation of a table from a content. -/
def readOperation {α : Type} (expecting : String)
    (ops : List (String × (Content Part → Except Rejection α))) (content : Content Part) :
    Except Rejection α := do
  let (tag, rest) ← splitTag "operation" expecting content.view
  let read ← readTag .setAside ops tag
  read rest

/-- Reads the content of an expression of a kind. -/
def readKind (content : Content Part) : Kind → Except Rejection Expression
  | .field => readContent "struct variant Expression::Field"
      (field <$> .required "path" Reader.text) content
  | .literal => readContent "struct variant Expression::Literal"
      (literal <$> .required "value" Reader.value) content
  | .concat => readContent "struct variant Expression::Concat"
      (concat <$> .required "values" Part.expressions <*>
        .withDefault "separator" Reader.text "") content
  | .template => readContent "struct variant Expression::Template"
      (template <$> .required "template" Reader.text) content
  | .math => readContent "struct variant Expression::Math"
      (math <$> .required "operator" (Reader.choice MathOp.names (MathOp.names.map Prod.fst))
        <*> .required "left" Part.expression <*> .optional "right" Part.expression) content
  | .coalesce => readContent "struct variant Expression::Coalesce"
      (coalesce <$> .required "values" Part.expressions) content
  | .conditional => readContent "struct variant Expression::Conditional"
      (conditional <$> .required "condition" Condition.reader <*> .required "then" Part.expression
        <*> .optional "else" Part.expression) content
  | .date => date <$> readOperation "internally tagged enum DateExpression" dateOps content
  | .list => readOperation "internally tagged enum ArrayExpression" listOps content
  | .text => readOperation "internally tagged enum StringExpression" textOps content

/-- Reads an expression from one level of a document. -/
def readView (manner : Manner) (level : View Part) : Except Rejection Expression := do
  let (tag, content) ← splitTag "type" "internally tagged enum Expression" level
  readKind content (← readTag manner kinds tag)

mutual

/-- A part with what it is. -/
def partOf : Json → Part
  | .arr items =>
    let parts := partsOf items
    ⟨.arr items, readView .setAside (.list parts), parts.mapM Part.expression⟩
  | .obj fields =>
    ⟨.obj fields, readView .setAside (.map (entriesOf fields)),
      .error ⟨.invalidType .map "a sequence", none⟩⟩
  | json => .plain json

/-- The parts of a list. -/
def partsOf : List Json → List Part
  | [] => []
  | item :: items => partOf item :: partsOf items

/-- The entries of an object. -/
def entriesOf : List (String × Json) → List (Entry Part)
  | [] => []
  | (name, value) :: fields => { name, colon := none, value := partOf value } :: entriesOf fields

end

/-- The expression of a document. -/
def read : Json → Except Rejection Expression
  | .arr items => readView .value (.list (partsOf items))
  | .obj fields => readView .value (.map (entriesOf fields))
  | json => (Part.plain json).expression

end Expression

end RecordFlow
