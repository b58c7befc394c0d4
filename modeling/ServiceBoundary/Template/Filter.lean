import ServiceBoundary.Template.Value
import ServiceBoundary.Text.Blank
import ServiceBoundary.Text.Hex
import ServiceBoundary.Text.LetterCase

/-!
# Filters and tests of templates

A filter makes a new value of a value and arguments, a test answers whether something is so.

* `Value.filtered`   the value of a filter;
* `Value.tested`     the answer of a test.
-/

namespace ServiceBoundary.Template

/-- a filter that looks at a value as a whole -/
inductive Filter where
  /-- a number in hexadecimal -/
  | hex
  /-- a document in one line -/
  | document
  /-- items as one text -/
  | join
  | length
  | first
  | last
  | upper
  | lower
  /-- a text without blanks, or other characters, at its ends -/
  | trim
  | replace
  /-- something else for what is undefined -/
  | fallback
deriving DecidableEq, Repr

namespace Filter

def ofName? : String → Option Filter
  | "hex" => some .hex
  | "tojson" => some .document
  | "join" => some .join
  | "length" | "count" => some .length
  | "first" => some .first
  | "last" => some .last
  | "upper" => some .upper
  | "lower" => some .lower
  | "trim" => some .trim
  | "replace" => some .replace
  | "default" | "d" => some .fallback
  | _ => none

/-- the argument, unless it is none -/
def given : Value → Option Value
  | .undefined => none
  | .none => none
  | v => some v

/-- a number of 64 bits in hexadecimal -/
def hexText (v : Value) : Except RenderError String :=
  match v.toInt? with
  | some n => if 0 ≤ n ∧ n < 0x10000000000000000 then .ok (Hex.text (UInt64.ofNat n.toNat)) else .error .operation
  | none => .error .operation

/-- the texts with a joiner between them; nothing is put before the first one that is not empty -/
def joined (joiner : String) (texts : List String) : String :=
  texts.foldl (fun all s => if all.isEmpty then s else all ++ joiner ++ s) ""

/-- the items of a value as one text -/
def joinItems (v : Value) (joiner : String) : Except RenderError Value := do
  return .text (joined joiner ((← v.items).map Value.shown))

def firstItem : Value → Except RenderError Value
  | .text s => .ok ((s.toList.head?.map fun c => .text c.toString).getD .undefined)
  | .list vs => .ok (vs.head?.getD .undefined)
  | .map entries => .ok ((entries.head?.map Prod.fst).getD .undefined)
  | _ => .error .operation

def lastItem : Value → Except RenderError Value
  | .text s => .ok ((s.toList.getLast?.map fun c => .text c.toString).getD .undefined)
  | .list vs => .ok (vs.getLast?.getD .undefined)
  | _ => .error .operation

/-- the text without some characters at its ends -/
def trimmed (p : Char → Bool) (s : String) : String :=
  String.ofList (Text.dropTrailing p (s.toList.dropWhile p))

/-- the text with every occurrence of a text replaced; the empty text occurs at every place -/
def replaced (old new s : String) : String :=
  if old.isEmpty then new ++ String.join (s.toList.map fun c => c.toString ++ new)
  else new.intercalate (s.splitOn old)

/-- the value of a filter; `lax` tells whether all that does not count as true is replaced -/
def fallbackFor (v : Value) (other : Value) (lax : Bool) : Value :=
  let missing :=
    match v with
    | .undefined => true
    | v => lax && !v.isTrue
  if missing then (given other).getD (.text "") else v

def apply (f : Filter) (v : Value) (args : List Value) : Except RenderError Value :=
  match f, args with
  | hex, args => do
    let s ← hexText v
    if args.isEmpty then return .text s else throw .tooManyArguments
  | document, [] => return .text (← v.json).compact
  | join, [] => joinItems v ""
  | join, [joiner] => joinItems v (((given joiner).map Value.shown).getD "")
  | length, [] =>
    match v.length? with
    | some n => return .int n
    | none => throw .operation
  | first, [] => firstItem v
  | last, [] => lastItem v
  | upper, [] => return .text (Text.upper v.shown)
  | lower, [] => return .text (Text.lower v.shown)
  | trim, [] => return .text (Text.trim v.shown)
  | trim, [chars] =>
    match given chars with
    | some chars => return .text (trimmed chars.shown.toList.contains v.shown)
    | none => return .text (Text.trim v.shown)
  | replace, [] | replace, [_] => throw .missingArgument
  | replace, [old, new] => return .text (replaced old.shown new.shown v.shown)
  | fallback, [] => return fallbackFor v .none false
  | fallback, [other] => return fallbackFor v other false
  | fallback, [other, lax] =>
    match given lax with
    | some (.bool lax) => return fallbackFor v other lax
    | some _ => throw .operation
    | none => return fallbackFor v other false
  | _, _ => throw .tooManyArguments

end Filter

namespace Value

/-- the name of the filter that looks at each item -/
def eachName : String := "map"

/-- the same part of each item, with another value where it is missing -/
def parts (v path default : Value) : Except RenderError Value := do
  let part (item : Value) : Except RenderError Value :=
    match path with
    | text path => item.atPath path
    | key => item.item key
  let orDefault (found : Except RenderError Value) : Except RenderError Value :=
    match found, default with
    | .ok undefined, default => .ok default
    | .ok v, _ => .ok v
    | .error e, undefined => .error e
    | .error _, default => .ok default
  return list (← (← v.items).mapM fun item => orDefault (part item))

/-- the value of a filter with all its arguments -/
def filtered (name : String) (v : Value) (args : List Value) (named : List (String × Value)) :
    Except RenderError Value :=
  if name = eachName then
    match named.lookup "attribute", args with
    | some path, [] =>
      if named.all fun a => a.1 = "attribute" || a.1 = "default" then
        parts v path ((named.lookup "default").getD undefined)
      else .error .tooManyArguments
    | some _, _ => .error .tooManyArguments
    | Option.none, text name :: args => do
      if named.isEmpty then
        if (Filter.ofName? name).isSome ∨ name = eachName then
          return list (← (← v.items).mapM fun item => filtered name item args [])
        else throw .unknownFilter
      else throw .tooManyArguments
    | Option.none, _ => .error .operation
  else
    match Filter.ofName? name with
    | some f => if named.isEmpty then f.apply v args else .error .tooManyArguments
    | Option.none => .error .unknownFilter
termination_by args.length

def tested (name : String) (v : Value) (args : List Value) : Except RenderError Bool :=
  let answer (b : Bool) : Except RenderError Bool :=
    if args.isEmpty then .ok b else .error .tooManyArguments
  match name, v with
  | "defined", undefined => answer false
  | "defined", _ => answer true
  | "undefined", undefined => answer true
  | "undefined", _ => answer false
  | "none", none => answer true
  | "none", _ => answer false
  | _, _ => .error .unknownTest

end Value

end ServiceBoundary.Template
