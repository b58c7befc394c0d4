import Mathlib.Data.List.Nodup
import ServiceBoundary.Proofs.Results
import ServiceBoundary.Toml.Schema

/-!
# Tables that say records

A schema lists the fields of a record: the key of each one, what the record has there, the values
that say this, and what the record has there if nothing is said. A table says a record if each of
its entries says a field, and the fields without an entry have their defaults. Nothing is asked of
the order of the entries.

A reader changes its record entry by entry, in an order of its own. If it sets the field of the
entry and leaves the other fields alone, then in the end each field is what its entry says, or what
it was before; so the reader comes to the record that the table says.

* `Spelling`, `Spells`, `Strays`   schemas, the tables that say a record and those that say more;
* `IsList`, `IsRow`, `IsTable`   the values that say lists, rows of numbers and records;
* `exists_spells`           records that can be said;
* `Reads`, `Record.Obeys`   a reader that reads by a schema;
* `exists_foldlM_enter`     what the entries of a table change;
* `readTable_of_spells`     a table is read as the record that it says;
* `readTable_of_strays`     a table with a stray key is not read at all;
* `readTable_eq_error`, `read_eq_error`   an entry that cannot be read is an error.
-/

namespace ServiceBoundary.Toml

variable {α β : Type} {a x : α} {v : Value} {entries : List (String × Value)}

/-! ## schemas -/

/-- a field of a record, and how it is said -/
structure Spelling (α : Type) where
  key : String
  {Content : Type}
  /-- what a record has in the field -/
  get : α → Content
  /-- the record with something else there -/
  set : Content → α → α
  get_set : ∀ c a, get (set c a) = c := by intros; rfl
  /-- the values that say what it is -/
  spells : Content → Value → Prop
  /-- what it is if there is no entry; some fields must have one -/
  default : Option Content

/-- the table says the record -/
structure Spells (schema : List (Spelling α)) (a : α) (entries : List (String × Value)) : Prop where
  spelled : ∀ e ∈ entries, ∃ s ∈ schema, s.key = e.1 ∧ s.spells (s.get a) e.2
  left : ∀ s ∈ schema, s.key ∉ entries.map Prod.fst → s.default = some (s.get a)

/-- some key of the table is that of no field -/
def Strays (schema : List (Spelling α)) (entries : List (String × Value)) : Prop :=
  ∃ e ∈ entries, e.1 ∉ schema.map Spelling.key

def IsText (text : String) (v : Value) : Prop := v = .string text

def IsList (item : β → Value → Prop) (xs : List β) (v : Value) : Prop :=
  ∃ items, v = .array items ∧ List.Forall₂ item xs items

def IsRow (words : List UInt64) (v : Value) : Prop :=
  v = .array (words.map fun w => .integer w.toNat)

def IsTable (schema : List (Spelling α)) (a : α) (v : Value) : Prop :=
  ∃ entries, v = .table entries ∧ Spells schema a entries

/-- the value for a key, in a table or among the items of an array, where each has its place -/
inductive FieldOf (keys : List String) : Value → String → Value → Prop
  | entry {entries : List (String × Value)} {k : String} {v : Value} (h : (k, v) ∈ entries) :
      FieldOf keys (.table entries) k v
  | item {items : List Value} {i : Nat} {k : String} {v : Value} (hk : keys[i]? = some k)
      (h : items[i]? = some v) : FieldOf keys (.array items) k v

/-! ## what can be said -/

/-- A record can be said if each of its fields can, or has its default. -/
theorem exists_spells {schema : List (Spelling α)}
    (h : ∀ s ∈ schema, (∃ v, s.spells (s.get a) v) ∨ s.default = some (s.get a)) :
    ∃ entries, Spells schema a entries := by
  induction schema with
  | nil => exact ⟨[], nofun, nofun⟩
  | cons s schema ih =>
    obtain ⟨hs, hrest⟩ := List.forall_mem_cons.1 h
    obtain ⟨entries, hspelled, hleft⟩ := ih hrest
    have hspelled' : ∀ e ∈ entries,
        ∃ s' ∈ s :: schema, s'.key = e.1 ∧ s'.spells (s'.get a) e.2 := by
      intro e he
      obtain ⟨s', hs', hkey⟩ := hspelled e he
      exact ⟨s', List.mem_cons_of_mem _ hs', hkey⟩
    obtain ⟨v, hv⟩ | hdefault := hs
    · refine ⟨(s.key, v) :: entries, ?_, ?_⟩
      · rw [List.forall_mem_cons]
        exact ⟨⟨s, List.mem_cons_self, rfl, hv⟩, hspelled'⟩
      · rw [List.forall_mem_cons]
        refine ⟨fun hnot => absurd List.mem_cons_self hnot, fun s' hs' hnot => hleft s' hs' ?_⟩
        exact fun hmem => hnot (List.mem_cons_of_mem _ hmem)
    · refine ⟨entries, hspelled', ?_⟩
      rw [List.forall_mem_cons]
      exact ⟨fun _ => hdefault, hleft⟩

theorem exists_isList {item : β → Value → Prop} (h : ∀ x, ∃ v, item x v) (xs : List β) :
    ∃ v, IsList item xs v := by
  choose value hvalue using h
  refine ⟨.array (xs.map value), _, rfl, ?_⟩
  rw [List.forall₂_map_right_iff, List.forall₂_same]
  exact fun x _ => hvalue x

theorem exists_isTable {schema : List (Spelling α)}
    (h : ∀ s ∈ schema, (∃ v, s.spells (s.get a) v) ∨ s.default = some (s.get a)) :
    ∃ v, IsTable schema a v := by
  obtain ⟨entries, hentries⟩ := exists_spells h
  exact ⟨.table entries, entries, rfl, hentries⟩

/-! ## values -/

theorem text_eq_ok {s : String} (h : IsText s v) : text v = .ok s := by
  rw [h]
  rfl

theorem list_eq_ok {spells : β → Value → Prop} {item : Value → Except SchemaError β} {xs : List β}
    (hitem : ∀ x v, spells x v → item v = .ok x) (h : IsList spells xs v) :
    list item v = .ok xs := by
  obtain ⟨items, rfl, hitems⟩ := h
  exact mapM_eq_ok_iff.2 (hitems.flip.imp fun v x hx => hitem x v hx)

theorem word_toNat (w : UInt64) : word (.integer w.toNat) = .ok w := by
  have hbound : (0 : Int) ≤ w.toNat ∧ (w.toNat : Int) < wordBound := by
    have hlt := w.toNat_lt
    unfold wordBound
    omega
  rw [word, if_pos hbound, Int.toNat_natCast, UInt64.ofNat_toNat]

theorem row_eq_ok {words : List UInt64} {n : Nat} (hn : words.length = n) (h : IsRow words v) :
    row n v = .ok ⟨words.toArray, hn⟩ := by
  have hwords : ((words.map fun w => Value.integer w.toNat).take n).mapM word = .ok words := by
    rw [← hn, ← List.length_map (f := fun w : UInt64 => Value.integer w.toNat), List.take_length,
      mapM_eq_ok_iff, List.forall₂_map_left_iff, List.forall₂_same]
    exact fun w _ => word_toNat w
  rw [h, row]
  simp only [hwords]
  exact dif_pos hn

/-! ## readers -/

/-- what the spelling says is put into the record; only a field with a default may be left out -/
structure Reads (s : Spelling α) (f : Field α) : Prop where
  key_eq : s.key = f.name
  required : f.required = true → s.default = none
  put : ∀ c v, s.spells c v → ∀ x, f.put v x = .ok (s.set c x)

theorem map_eq_ok {read : Value → Except SchemaError β} {b : β} (h : read v = .ok b) (f : β → α) :
    (read v).map f = .ok (f b) := by
  rw [h]
  rfl

theorem map_eq_error {read : Value → Except SchemaError β} (h : ∃ e, read v = .error e)
    (f : β → α) : ∃ e, (read v).map f = .error e := by
  obtain ⟨e, he⟩ := h
  rw [he]
  exact ⟨e, rfl⟩

namespace Record
variable {r : Record α} {schema : List (Spelling α)}

/-- The reader takes the fields of the schema and no others, each as it is said; to set a field
leaves the others alone; a field that nothing sets has its default; and a record is no more than its
fields. -/
structure Obeys (r : Record α) (schema : List (Spelling α)) : Prop where
  strict : r.strict = true
  nodup : (schema.map Spelling.key).Nodup
  fields : List.Forall₂ Reads schema r.fields
  apart : ∀ s ∈ schema, ∀ s' ∈ schema, s'.key ≠ s.key → ∀ c x, s'.get (s.set c x) = s'.get x
  default : ∀ s ∈ schema, ∀ c, s.default = some c → s.get r.base = c
  ext : ∀ a b, (∀ s ∈ schema, s.get a = s.get b) → a = b

namespace Obeys

theorem names_eq (h : r.Obeys schema) : r.names = schema.map Spelling.key := by
  have hkeys := List.forall₂_map_right_iff.2 (List.forall₂_map_left_iff.2
    (h.fields.imp fun _ _ (hr : Reads _ _) => hr.key_eq))
  exact (List.forall₂_eq_eq_eq ▸ hkeys : _ = _).symm

theorem nodup_names (h : r.Obeys schema) : r.names.Nodup := h.names_eq ▸ h.nodup

theorem eq_of_key_eq (h : r.Obeys schema) {s s' : Spelling α} (hs : s ∈ schema)
    (hs' : s' ∈ schema) (hkey : s.key = s'.key) : s = s' :=
  List.inj_on_of_nodup_map h.nodup hs hs' hkey

end Obeys

theorem enter_eq_put (h : r.names.Nodup) {f : Field α} (hf : f ∈ r.fields) (v : Value) (x : α) :
    r.enter x (f.name, v) = f.put v x := by
  have hfind : r.fields.find? (fun f' => f'.name == f.name) = some f := by
    rw [List.find?_eq_some_iff_append]
    obtain ⟨before, after, hsplit⟩ := List.append_of_mem hf
    refine ⟨beq_self_eq_true _, before, after, hsplit, fun f' hf' => ?_⟩
    rw [names, hsplit, List.map_append, List.map_cons, List.nodup_append] at h
    have hne := h.2.2 f'.name (List.mem_map_of_mem hf') f.name List.mem_cons_self
    simpa using hne
  rw [enter, hfind]

/-- an entry sets the field that it says -/
theorem enter_of_spells (h : r.Obeys schema) {s : Spelling α} (hs : s ∈ schema) {c : s.Content}
    (hspells : s.spells c v) (x : α) : r.enter x (s.key, v) = .ok (s.set c x) := by
  obtain ⟨f, hf, hreads⟩ := exists_rel_of_mem_left h.fields hs
  rw [hreads.key_eq, enter_eq_put h.nodup_names hf]
  exact hreads.put c v hspells x

theorem mem_sortedEntries {e : String × Value} : e ∈ sortedEntries entries ↔ e ∈ entries :=
  (List.mergeSort_perm _ _).mem_iff

/-- **What the entries of a table change.** A field with an entry is what the entry says in the end,
and the others are what they were. -/
theorem exists_foldlM_enter (h : r.Obeys schema)
    (hspelled : ∀ e ∈ entries, ∃ s ∈ schema, s.key = e.1 ∧ s.spells (s.get a) e.2) (x : α) :
    ∃ y, entries.foldlM r.enter x = .ok y ∧ ∀ s ∈ schema,
      s.get y = if s.key ∈ entries.map Prod.fst then s.get a else s.get x := by
  induction entries generalizing x with
  | nil => exact ⟨x, rfl, fun s _ => rfl⟩
  | cons e entries ih =>
    obtain ⟨⟨s, hs, hkey, hspells⟩, hrest⟩ := List.forall_mem_cons.1 hspelled
    have hentry := enter_of_spells h hs hspells x
    rw [hkey] at hentry
    obtain ⟨y, hy, hfields⟩ := ih hrest (s.set (s.get a) x)
    refine ⟨y, ?_, fun s' hs' => ?_⟩
    · rw [List.foldlM_cons, hentry]
      exact hy
    · rw [hfields s' hs', List.map_cons]
      by_cases hlater : s'.key ∈ entries.map Prod.fst
      · rw [if_pos hlater, if_pos (List.mem_cons_of_mem _ hlater)]
      · rw [if_neg hlater]
        by_cases hnow : s'.key = e.1
        · obtain rfl := h.eq_of_key_eq hs' hs (hnow.trans hkey.symm)
          rw [if_pos (hnow ▸ List.mem_cons_self), s'.get_set]
        · rw [if_neg, h.apart s hs s' hs' (hkey ▸ hnow)]
          rw [List.mem_cons]
          exact fun hmem => hmem.elim hnow hlater

/-- **A table is read as the record that it says.** -/
theorem readTable_of_spells (h : r.Obeys schema) (hs : Spells schema a entries) :
    r.readTable entries = .ok a := by
  have hkeys : ∀ k, k ∈ (sortedEntries entries).map Prod.fst ↔ k ∈ entries.map Prod.fst := by
    intro k
    exact ((List.mergeSort_perm entries _).map Prod.fst).mem_iff
  have hspelled : ∀ e ∈ sortedEntries entries, ∃ s ∈ schema, s.key = e.1 ∧ s.spells (s.get a) e.2 :=
    fun e he => hs.spelled e (mem_sortedEntries.1 he)
  obtain ⟨y, hy, hfields⟩ := exists_foldlM_enter h hspelled r.base
  have hrecord : y = a := by
    refine h.ext y a fun s hmem => ?_
    rw [hfields s hmem]
    split
    · rfl
    · next hnot => exact h.default s hmem _ (hs.left s hmem (mt (hkeys s.key).2 hnot))
  have hmissing : r.fields.find? (fun f => f.required && !(entries.map Prod.fst).contains f.name) =
      none := by
    rw [List.find?_eq_none]
    intro f hf hmiss
    rw [Bool.and_eq_true, Bool.not_eq_true', List.contains_eq_mem, decide_eq_false_iff_not] at hmiss
    obtain ⟨s, hmem, hreads⟩ := exists_rel_of_mem_left h.fields.flip hf
    have hdefault := hs.left s hmem (hreads.key_eq ▸ hmiss.2)
    rw [hreads.required hmiss.1] at hdefault
    cases hdefault
  refine bind_eq_ok_iff.2 ⟨a, hrecord ▸ hy, ?_⟩
  simp only [hmissing]
  rfl

theorem read_of_isTable (h : r.Obeys schema) (a : α) (v : Value) (hv : IsTable schema a v) :
    r.read v = .ok a := by
  obtain ⟨entries, rfl, hs⟩ := hv
  exact readTable_of_spells h hs

/-! ## entries that cannot be read -/

theorem enter_unknown (h : r.Obeys schema) {e : String × Value}
    (hkey : e.1 ∉ schema.map Spelling.key) (x : α) :
    r.enter x e = .error (.unknownField e.1 r.names) := by
  have hfind : r.fields.find? (fun f => f.name == e.1) = none := by
    rw [List.find?_eq_none]
    intro f hf hname
    rw [beq_iff_eq] at hname
    exact hkey (h.names_eq ▸ hname ▸ List.mem_map_of_mem hf)
  rw [enter, hfind, h.strict]
  rfl

theorem readTable_eq_error {e : String × Value} (he : e ∈ entries)
    (h : ∀ x, ∃ err, r.enter x e = .error err) : ∃ err, r.readTable entries = .error err := by
  obtain ⟨err, herr⟩ := foldlM_eq_error_of_mem (mem_sortedEntries.2 he) h r.base
  exact ⟨err, by rw [readTable, herr]; rfl⟩

theorem readTable_of_strays (h : r.Obeys schema) (hs : Strays schema entries) :
    ∃ err, r.readTable entries = .error err := by
  obtain ⟨e, he, hkey⟩ := hs
  exact readTable_eq_error he fun x => ⟨_, enter_unknown h hkey x⟩

theorem readArray_eq_error (h : r.names.Nodup) {items : List Value} {i : Nat} {k : String}
    (hk : r.names[i]? = some k) (hv : items[i]? = some v)
    (hfail : ∀ x, ∃ err, r.enter x (k, v) = .error err) :
    ∃ err, r.readArray items = .error err := by
  rw [names, List.getElem?_map, Option.map_eq_some_iff] at hk
  obtain ⟨f, hf, rfl⟩ := hk
  have hmem : (f, v) ∈ r.fields.zip items := by
    rw [List.mem_iff_getElem?]
    exact ⟨i, List.getElem?_zip_eq_some.2 ⟨hf, hv⟩⟩
  have hput : ∀ x, ∃ err, f.put v x = .error err := by
    intro x
    rw [← enter_eq_put h (List.mem_of_getElem? hf)]
    exact hfail x
  obtain ⟨err, herr⟩ := foldlM_eq_error_of_mem (f := fun x fv => fv.1.put fv.2 x) hmem hput r.base
  exact ⟨err, by rw [readArray, herr]; rfl⟩

/-- A field that cannot be read is an error, wherever the record keeps it. -/
theorem read_eq_error (h : r.names.Nodup) {record : Value} {k : String}
    (hfield : FieldOf r.names record k v) (hfail : ∀ x, ∃ err, r.enter x (k, v) = .error err) :
    ∃ err, r.read record = .error err := by
  cases hfield with
  | entry hmem => exact readTable_eq_error hmem hfail
  | item hk hv => exact readArray_eq_error h hk hv hfail

/-- one table with a stray key spoils the list -/
theorem list_of_strays (h : r.Obeys schema) {items : List Value} (hitem : .table entries ∈ items)
    (hs : Strays schema entries) : ∃ err, list r.read (.array items) = .error err :=
  mapM_eq_error_of_mem hitem (readTable_of_strays h hs)

end Record

end ServiceBoundary.Toml
