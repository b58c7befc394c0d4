import ServiceBoundary.Decimal.Basic

/-!
# TOML values

What a TOML document says: a table of values. Numbers are exact, however large. Keys of a table
stand in the order of the document.
-/

namespace ServiceBoundary.Toml

/-- a number with a point or an exponent, or a special one -/
inductive Real where
  | finite (negative : Bool) (magnitude : Decimal)
  | infinite (negative : Bool)
  | undefined
deriving DecidableEq, Repr

inductive Value where
  | string (s : String)
  | integer (n : Int)
  | float (x : Real)
  | boolean (b : Bool)
  /-- a date, a time or both, as written -/
  | moment (s : String)
  | array (items : List Value)
  | table (entries : List (String × Value))

end ServiceBoundary.Toml
