import Mathlib.Data.List.Basic
import ServiceBoundary.Fragment.ServiceTable
import ServiceBoundary.Proofs.Literals

/-!
# Service tables read back

A reader of tables that knows the style of a table and nothing of the plan. It takes the fixed texts
of the table one after the other and reads literals and numbers between them. A row goes on until
its closing mark comes where another item could start. That cannot go wrong, whatever names and
artefacts hold, because an item never starts with the mark.

* `run_items`, `run_entries`    rows are read back up to their closing mark;
* `run_regions`, `run_field`    so are lists of regions, and the fields of an item;
* `decode_serviceTable`         what is read off a table;
* `tables_are_faithful`         what this says of the texts of tables.
-/

namespace ServiceBoundary.Fragment

open Hex (Ends)
open Toml (isDigitOf)
open Text (literal quoted)

/-! ## readers of rows -/

/-- a text that must come next -/
def mark (t : String) : Reader Unit :=
  fun cs => (cs.dropPrefix? t.toList).map fun rest => ((), rest)

theorem run_mark (t : String) (rest : List Char) :
    (mark t).run (t.toList ++ rest) = some ((), rest) := by
  show ((t.toList ++ rest).dropPrefix? t.toList).map _ = _
  rw [List.dropPrefix?_append_of_beq _ (beq_self_eq_true t.toList)]
  rfl

theorem run_bind_eq {α β : Type} {x : Reader α} {f : α → Reader β} {a : α} {cs rest : List Char}
    (h : x.run cs = some (a, rest)) : (x >>= f).run cs = (f a).run rest := by
  rw [StateT.run_bind, h]
  rfl

section
variable {α β : Type} (item : Reader α) (closing : Char)

/-- items up to a closing mark; an item that takes nothing is refused -/
def items : Reader (List α)
  | [] => none
  | c :: cs =>
    if c = closing then some ([], cs)
    else
      match item.run (c :: cs) with
      | none => none
      | some (a, rest) =>
        if rest.length ≤ cs.length then (items rest).map fun p => (a :: p.1, p.2) else none
termination_by cs => cs.length

/-- items with commas between them, up to a closing mark -/
def entries : Reader (List α)
  | [] => none
  | c :: cs =>
    if c = closing then some ([], cs)
    else do
      let (a, rest) ← item.run (c :: cs)
      let (as, rest) ← (items (do mark ", "; item) closing).run rest
      return (a :: as, rest)

variable {first : Char} {value : β → α}

/-- **Items are read back** up to the closing mark, if they start with another character. -/
theorem run_items {text : β → List Char} (hclosing : isDigitOf 16 closing = false)
    (hfirst : isDigitOf 16 first = false) (hne : first ≠ closing)
    (htext : ∀ b, ∃ cs, text b = first :: cs)
    (hitem : ∀ b rest, Ends rest → item.run (text b ++ rest) = some (value b, rest))
    (bs : List β) (rest : List Char) :
    (items item closing).run (bs.flatMap text ++ closing :: rest) = some (bs.map value, rest) := by
  show items item closing _ = _
  induction bs with
  | nil => simp [items]
  | cons b bs ih =>
    have hrest : Ends (bs.flatMap text ++ closing :: rest) := by
      cases bs with
      | nil => exact Hex.ends_cons hclosing rest
      | cons b' bs =>
        obtain ⟨cs, hb'⟩ := htext b'
        rw [List.flatMap_cons, hb']
        exact Hex.ends_cons hfirst _
    obtain ⟨cs, hb⟩ := htext b
    have hrun := hitem b _ hrest
    rw [hb] at hrun
    rw [List.flatMap_cons, List.append_assoc, hb]
    rw [List.cons_append] at hrun ⊢
    rw [items, if_neg hne, hrun]
    simp [ih]

theorem toList_intercalate_cons (sep s : String) (ss : List String) :
    (sep.intercalate (s :: ss)).toList =
      s.toList ++ ss.flatMap fun t => sep.toList ++ t.toList := by
  rw [String.toList_intercalate]
  induction ss generalizing s with
  | nil => simp
  | cons t ss ih =>
    rw [List.map_cons, List.map_cons, List.intercalate_cons_cons, ← List.map_cons, ih t,
      List.flatMap_cons, List.append_assoc, List.append_assoc]

theorem run_entries {text : β → String} (hclosing : isDigitOf 16 closing = false)
    (hcomma : ',' ≠ closing) (hne : first ≠ closing)
    (htext : ∀ b, ∃ cs, (text b).toList = first :: cs)
    (hitem : ∀ b rest, Ends rest → item.run ((text b).toList ++ rest) = some (value b, rest))
    (bs : List β) (rest : List Char) :
    (entries item closing).run ((", ".intercalate (bs.map text)).toList ++ closing :: rest) =
      some (bs.map value, rest) := by
  show entries item closing _ = _
  cases bs with
  | nil => simp [entries]
  | cons b bs =>
    have hmarked : ∀ b rest, Ends rest → (do mark ", "; item : Reader α).run
        (", ".toList ++ (text b).toList ++ rest) = some (value b, rest) := by
      intro b rest hrest
      rw [List.append_assoc, run_bind_eq (run_mark _ _)]
      exact hitem b rest hrest
    have hlater : (items (do mark ", "; item) closing).run
        (bs.flatMap (fun b => ", ".toList ++ (text b).toList) ++ closing :: rest) =
          some (bs.map value, rest) :=
      run_items _ closing hclosing rfl hcomma (fun b => ⟨_, rfl⟩) hmarked bs rest
    have hrest :
        Ends (bs.flatMap (fun b => ", ".toList ++ (text b).toList) ++ closing :: rest) := by
      cases bs with
      | nil => exact Hex.ends_cons hclosing rest
      | cons b' bs => exact Hex.ends_cons rfl _
    obtain ⟨cs, hb⟩ := htext b
    have hrun := hitem b _ hrest
    rw [hb, List.cons_append] at hrun
    rw [List.map_cons, toList_intercalate_cons, List.flatMap_map, List.append_assoc, hb,
      List.cons_append, entries, if_neg hne, hrun]
    show ((items _ closing).run _).bind _ = _
    rw [hlater]
    rfl

end

/-! ## the reader of a table -/

/-- what a table says of a service -/
structure Entry where
  name : String
  source : String
  resources : Resources
deriving DecidableEq, Repr

/-- what a table should say of a service -/
def entry (c : Component) : Entry := ⟨c.name, c.source, c.resources⟩

def memoryRegion? : List UInt64 → Option MemoryRegion
  | [virt, phys, size] => some ⟨virt, phys, size⟩
  | _ => none

def dmaRegion? : List UInt64 → Option DmaRegion
  | [addr, size] => some ⟨addr, size⟩
  | _ => none

theorem memoryRegion?_memoryRow (m : MemoryRegion) : memoryRegion? (memoryRow m) = some m := rfl

theorem dmaRegion?_dmaRow (d : DmaRegion) : dmaRegion? (dmaRow d) = some d := rfl

/-- a tuple of numbers that means something -/
def region {ρ : Type} (region? : List UInt64 → Option ρ) : Reader ρ := do
  mark "("
  let ws ← entries Hex.word ')'
  region? ws

def regions {ρ : Type} (region? : List UInt64 → Option ρ) : Reader (List ρ) := do
  mark "&["
  entries (region region?) ']'

def field {ρ : Type} (name : String) (value : Reader ρ) : Reader ρ := do
  mark ("        " ++ name ++ ": ")
  let r ← value
  mark ",\n"
  return r

def service (style : Style) : Reader Entry := do
  mark ("    " ++ style.itemMacro ++ "! \x7b\n")
  let name ← field "name" literal
  let source ← field "file" literal
  let memory ← field "mem" (regions memoryRegion?)
  let dma ← field "dma" (regions dmaRegion?)
  mark "    \x7d,\n"
  return { name, source, resources := { memory, dma } }

def opening (style : Style) : String :=
  header "//" ++ "pub const " ++ style.table ++ ": &[" ++ style.itemType ++ "] = &[\n"

def services (style : Style) : Reader (List Entry) := do
  mark (opening style)
  let found ← items (service style) ']'
  mark ";\n"
  return found

/-- what a table says, if it is a table of this style and nothing else -/
def decode (style : Style) (text : String) : Option (List Entry) :=
  match (services style).run text.toList with
  | some (found, []) => some found
  | _ => none

theorem toList_tuple (ws : List UInt64) :
    (tuple ws).toList = '(' :: ((", ".intercalate (ws.map Hex.text)).toList ++ [')']) := by
  simp [tuple]

theorem run_words (ws : List UInt64) (rest : List Char) :
    (entries Hex.word ')').run ((", ".intercalate (ws.map Hex.text)).toList ++ ')' :: rest) =
      some (ws, rest) := by
  have hrun := run_entries Hex.word ')' rfl (by decide) (by decide)
    (fun w => ⟨_, Hex.toList_text w⟩) (fun w rest hrest => Hex.word_text w hrest) ws rest
  rwa [List.map_id'] at hrun

variable {ρ : Type}

theorem run_region {region? : List UInt64 → Option ρ} {row : ρ → List UInt64}
    (h : ∀ r, region? (row r) = some r) (r : ρ) (rest : List Char) :
    (region region?).run ((tuple (row r)).toList ++ rest) = some (r, rest) := by
  have htuple : (tuple (row r)).toList ++ rest =
      "(".toList ++ ((", ".intercalate ((row r).map Hex.text)).toList ++ ')' :: rest) := by
    simp [toList_tuple]
  rw [htuple, region, run_bind_eq (run_mark _ _), run_bind_eq (run_words _ _), h]
  rfl

theorem run_regions {region? : List UInt64 → Option ρ} {row : ρ → List UInt64}
    (h : ∀ r, region? (row r) = some r) (rs : List ρ) (rest : List Char) :
    (regions region?).run ((tuples (rs.map row)).toList ++ rest) = some (rs, rest) := by
  have htuples : (tuples (rs.map row)).toList ++ rest =
      "&[".toList ++ ((", ".intercalate (rs.map (tuple ∘ row))).toList ++ ']' :: rest) := by
    simp [tuples]
  have hrun := run_entries (region region?) ']' rfl (by decide) (by decide)
    (fun r => ⟨_, toList_tuple (row r)⟩) (fun r rest _ => run_region h r rest) rs rest
  rw [List.map_id'] at hrun
  rw [htuples, regions, run_bind_eq (run_mark _ _)]
  exact hrun

theorem run_field {value : Reader ρ} {text : String} {r : ρ}
    (h : ∀ rest, value.run (text.toList ++ rest) = some (r, rest)) (name : String)
    (rest : List Char) :
    (field name value).run ((itemField name text).toList ++ rest) = some (r, rest) := by
  have hfield : (itemField name text).toList ++ rest =
      ("        " ++ name ++ ": ").toList ++ (text.toList ++ (",\n".toList ++ rest)) := by
    simp [itemField]
  rw [hfield, field, run_bind_eq (run_mark _ _), run_bind_eq (h _), run_bind_eq (run_mark _ _)]
  rfl

theorem run_service (style : Style) (c : Component) (rest : List Char) :
    (service style).run ((item style c).toList ++ rest) = some (entry c, rest) := by
  have hitem : (item style c).toList ++ rest =
      ("    " ++ style.itemMacro ++ "! \x7b\n").toList ++
        ((itemField "name" (quoted c.name)).toList ++
          ((itemField "file" (quoted c.source)).toList ++
            ((itemField "mem" (tuples (c.resources.memory.map memoryRow))).toList ++
              ((itemField "dma" (tuples (c.resources.dma.map dmaRow))).toList ++
                ("    \x7d,\n".toList ++ rest))))) := by
    simp [item]
  rw [hitem, service, run_bind_eq (run_mark _ _),
    run_bind_eq (run_field (Text.literal_quoted c.name) "name" _),
    run_bind_eq (run_field (Text.literal_quoted c.source) "file" _),
    run_bind_eq (run_field (run_regions memoryRegion?_memoryRow c.resources.memory) "mem" _),
    run_bind_eq (run_field (run_regions dmaRegion?_dmaRow c.resources.dma) "dma" _),
    run_bind_eq (run_mark _ _)]
  rfl

theorem toList_item (style : Style) (c : Component) :
    ∃ cs, (item style c).toList = ' ' :: cs := by
  simp [item]

theorem decode_serviceTable (style : Style) (plan : ServicePlan) :
    decode style (serviceTable style plan) = some (plan.components.map entry) := by
  have htable : (serviceTable style plan).toList = (opening style).toList ++
      (plan.components.flatMap (fun c => (item style c).toList) ++ ']' :: (";\n".toList ++ [])) := by
    simp [serviceTable, opening, String.toList_join, List.flatMap_map]
  have hitems := run_items (service style) ']' rfl rfl (by decide) (toList_item style)
    (fun c rest _ => run_service style c rest) plan.components (";\n".toList ++ [])
  unfold decode
  rw [htable, services, run_bind_eq (run_mark _ _), run_bind_eq hitems,
    run_bind_eq (run_mark _ _)]
  rfl

/-- **Tables are faithful.** What a table says of the services, in order, can be read off its text
by someone who knows its style: names and artefacts by the rules of literals, which no text in them
can end early or lead to another line, and all numbers. So plans with the same table agree on it. -/
theorem tables_are_faithful (style : Style) :
    (∀ plan, decode style (serviceTable style plan) = some (plan.components.map entry)) ∧
    (∀ s rest, literal.run ((quoted s).toList ++ rest) = some (s, rest)) ∧
    (∀ s front back, (quoted s).toList = front ++ back → back ≠ [] → literal.run front = none) ∧
    (∀ s, ∀ c ∈ (quoted s).toList, Text.isPrintable c = true ∧ c ≠ '\n' ∧ c ≠ '\r') ∧
    (∀ w rest, Ends rest → Hex.word.run ((Hex.text w).toList ++ rest) = some (w, rest)) ∧
    ∀ plan plan', serviceTable style plan = serviceTable style plan' →
      plan.components.map entry = plan'.components.map entry := by
  refine ⟨decode_serviceTable style, Text.literal_quoted, fun s _ _ => Text.literal_eq_none,
    Text.isPrintable_of_mem_quoted, fun w _ => Hex.word_text w, ?_⟩
  intro plan plan' htext
  have hplan := decode_serviceTable style plan
  rw [htext, decode_serviceTable style plan'] at hplan
  exact (Option.some.inj hplan).symm

/-- a table does not say what flags a service has -/
theorem table_of_marks :
    let c : Component := {
      name := "a\"b", source := "],\n    \x7d,", resources := { dma := [⟨0, 255⟩] }, flags := ["f"] }
    let plan : ServicePlan := ⟨[c]⟩
    let plan' : ServicePlan := ⟨[{ c with flags := [] }]⟩
    plan.components.map entry = plan'.components.map entry ∧
      decode {} (serviceTable {} plan') = some [⟨"a\"b", "],\n    \x7d,", { dma := [⟨0, 255⟩] }⟩] ∧
      literal.run "\"a\\\"".toList = none ∧
      Hex.word.run "0xff, 0x1".toList = some (255, ", 0x1".toList) := by
  intro c plan plan'
  obtain ⟨hread, -, hearly, -, hword, hsame⟩ := tables_are_faithful {}
  refine ⟨hsame plan plan' rfl, hread plan', ?_, ?_⟩
  · exact hearly "a\"b" _ "b\"".toList (by decide) (by decide)
  · exact hword 255 ", 0x1".toList (Hex.ends_cons rfl _)

end ServiceBoundary.Fragment
