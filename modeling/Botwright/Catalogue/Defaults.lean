import Botwright.Catalogue.Basic
import Botwright.Locale
import Botwright.Spec.Basic
import Botwright.Text.Case

/-!
Default labels and formats. A field with a well-known name has a label in both languages, any other
is labelled with its own name; numbers are formatted by what their path speaks of.
-/
namespace Botwright.Catalogue

/-- Well-known names with their labels, Japanese first. -/
def labels : List (String × String × String) :=
  [("temp", "気温", "Temperature"), ("temperature", "気温", "Temperature"),
   ("humidity", "湿度", "Humidity"), ("pressure", "気圧", "Pressure"),
   ("description", "説明", "Description"), ("name", "名前", "Name"), ("title", "タイトル", "Title"),
   ("value", "値", "Value"), ("count", "件数", "Count"), ("total", "合計", "Total"),
   ("price", "価格", "Price"), ("amount", "金額", "Amount"), ("date", "日付", "Date"),
   ("time", "時刻", "Time"), ("status", "ステータス", "Status"),
   ("message", "メッセージ", "Message"), ("id", "ID", "ID"), ("url", "URL", "URL")]

/-- The label of a field: that of its last name in lower case if well known, else the name. -/
def defaultLabel (field : Field) (locale : Locale) : String :=
  let name := FieldPath.lastName field.path
  match labels.lookup (String.ofList (Text.lower name.toList)) with
  | some (japanese, english) =>
    match locale with
    | .japanese => japanese
    | .english => english
  | none => name

/-- The format of a number, guessed from its path. -/
def numberFormat (path : String) (locale : Locale) : String :=
  let path := Text.lower path.toList
  let mentions (word : String) : Bool := Text.contains word.toList path
  if mentions "temp" then "\x7bvalue\x7d°C"
  else if mentions "price" || mentions "cost" then
    match locale with
    | .japanese => "¥\x7bvalue\x7d"
    | .english => "$\x7bvalue\x7d"
  else if mentions "percent" then "\x7bvalue\x7d%"
  else Mapping.plainFormat

/-- The format of a field, guessed from its type and path. -/
def defaultFormat (field : Field) (locale : Locale) : String :=
  match field.type with
  | .number => numberFormat field.path locale
  | .boolean =>
    match locale with
    | .japanese => "\x7bvalue\x7d ? \"はい\" : \"いいえ\""
    | .english => "\x7bvalue\x7d ? \"Yes\" : \"No\""
  | _ => Mapping.plainFormat

/-- A mapping for every field worth showing, in the order of the catalogue. -/
def defaultMappings (fields : List Field) (locale : Locale) : List Mapping :=
  (fields.filter (·.type.isFormattable)).map fun field =>
    ⟨field.path, defaultLabel field locale, defaultFormat field locale⟩

end Botwright.Catalogue
