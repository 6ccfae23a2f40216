import DocQuery.Calendar
import DocQuery.Decimal.FloatText
import DocQuery.Text.Quoted

/-!
# Host values

Values that an application puts into its documents beside plain data. The kinds are given here once and
for all, and an object stands for a value of any other kind, known by a number.
-/

namespace DocQuery

/-- The content of a host value. -/
inductive Host
  | symbol (name : String)
  | point (x y : Int64)
  | celsius (degrees : Float)
  | instant (time : DateTime)
  | localTime (time : DateTime)
  | date (day : Date)
  | object (number : Int)

namespace Host

/-- The name of the kind of a host value. -/
def typeName : Host → String
  | symbol _ => "symbol"
  | point _ _ => "point"
  | celsius _ => "celsius"
  | instant _ => "datetime"
  | localTime _ => "naive_datetime"
  | date _ => "date"
  | object _ => "obj"

/-- The content of a host value as text. -/
def text : Host → String
  | symbol name => "Symbol(" ++ Text.quote name ++ ")"
  | point x y => "Point \x7b x: " ++ toString x ++ ", y: " ++ toString y ++ " \x7d"
  | celsius degrees => "Celsius(" ++ floatText degrees ++ ")"
  | instant time => String.ofList time.fullText ++ "Z"
  | localTime time => String.ofList time.fullText
  | date day => String.ofList day.text
  | object number => "Obj(" ++ toString number ++ ")"

end Host

end DocQuery
