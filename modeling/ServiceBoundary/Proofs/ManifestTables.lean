import Mathlib
import ServiceBoundary.Engines
import ServiceBoundary.Manifest
import ServiceBoundary.Proofs.Schemas

/-!
# What manifests say

The tables of a manifest are written down here as schemas: the keys of each table, what each of them
says, and what holds if it is not there. The readers of the five tables obey these schemas. So a
document that says a manifest, in any order and with any of the defaults left out, is read as this
manifest, and a document with a key that its table does not have is no manifest at all.

The defaults of `emit` stand here twice, as the record that holds if the whole table is left out and
key by key; that both are the same is part of the laws of the readers.

* `schema`, `planSchema`, `emissionSchema`, `templateSchema`, `taskSchema`   the tables;
* `obeys_record` and the like   the readers obey them;
* `HasStrayKey`                 a document with a key that is no field of its table;
* `readTable_of_hasStrayKey`    such a document cannot be read;
* `exists_spells_schema`        every manifest can be said;
* `strict_and_complete`         all of this about documents and texts.
-/

namespace ServiceBoundary.Manifest
open Toml (FieldOf IsList IsRow IsTable IsText Record Spelling Spells Strays Value list_eq_ok
  map_eq_error map_eq_ok row_eq_ok text_eq_ok)

variable {v : Value}

/-! ## the values -/

def IsMemoryRegion (r : MemoryRegion) : Value → Prop := IsRow [r.virt, r.phys, r.size]

def IsDmaRegion (r : DmaRegion) : Value → Prop := IsRow [r.addr, r.size]

def IsPolicy (p : FlagPolicy) : Value → Prop := IsText p.label

/-- a text that is there; nothing says that there is none -/
def IsSome (text? : Option String) (v : Value) : Prop := ∃ text, text? = some text ∧ IsText text v

theorem memoryRegion_eq_ok (r : MemoryRegion) (v : Value) (h : IsMemoryRegion r v) :
    memoryRegion v = .ok r := by
  rw [memoryRegion, row_eq_ok (n := 3) rfl h]
  rfl

theorem dmaRegion_eq_ok (r : DmaRegion) (v : Value) (h : IsDmaRegion r v) :
    dmaRegion v = .ok r := by
  rw [dmaRegion, row_eq_ok (n := 2) rfl h]
  rfl

theorem policy_eq_ok {p : FlagPolicy} (h : IsPolicy p v) : Toml.variant policies v = .ok p := by
  rw [h]
  cases p <;> rfl

theorem texts_eq_ok {l : List String} (h : IsList IsText l v) : Toml.list Toml.text v = .ok l :=
  list_eq_ok (fun _ _ => text_eq_ok) h

/-! ## the tables -/

def taskSchema : List (Spelling Declaration) := [
  { key := "name", get := Declaration.name, set := fun s d => { d with name := s }
    spells := IsText, default := none },
  { key := "file", get := Declaration.source, set := fun s d => { d with source := s }
    spells := IsText, default := none },
  { key := "mem", get := fun d => d.resources.memory
    set := fun l d => { d with resources := { d.resources with memory := l } }
    spells := IsList IsMemoryRegion, default := some [] },
  { key := "dma", get := fun d => d.resources.dma
    set := fun l d => { d with resources := { d.resources with dma := l } }
    spells := IsList IsDmaRegion, default := some [] },
  { key := "deps", get := Declaration.dependencies, set := fun l d => { d with dependencies := l }
    spells := IsList IsText, default := some [] },
  { key := "cfg", get := Declaration.flags, set := fun l d => { d with flags := l }
    spells := IsList IsText, default := some [] }]

def templateSchema : List (Spelling TemplateEntry) := [
  { key := "name", get := TemplateEntry.name, set := fun s t => { t with name := s }
    spells := IsText, default := none },
  { key := "source", get := TemplateEntry.source, set := fun s t => { t with source := s }
    spells := IsText, default := none },
  { key := "output", get := TemplateEntry.output, set := fun s t => { t with output := s }
    spells := IsText, default := none }]

def emissionSchema : List (Spelling Emission) := [
  { key := "rust", get := Emission.serviceTable, set := fun o e => { e with serviceTable := o }
    spells := IsSome, default := some none },
  { key := "make", get := Emission.makeFlags, set := fun o e => { e with makeFlags := o }
    spells := IsSome, default := some none },
  { key := "table", get := fun e => e.style.table
    set := fun s e => { e with style := { e.style with table := s } }
    spells := IsText, default := some "TASK_FILES" },
  { key := "item_type", get := fun e => e.style.itemType
    set := fun s e => { e with style := { e.style with itemType := s } }
    spells := IsText, default := some "KernelServices" },
  { key := "item_macro", get := fun e => e.style.itemMacro
    set := fun s e => { e with style := { e.style with itemMacro := s } }
    spells := IsText, default := some "service" },
  { key := "cfg_prefix", get := fun e => e.style.flagMark
    set := fun s e => { e with style := { e.style with flagMark := s } }
    spells := IsText, default := some "--cfg=" },
  { key := "templates", get := Emission.templates, set := fun l e => { e with templates := l }
    spells := IsList (IsTable templateSchema), default := some [] }]

def planSchema : List (Spelling FlagPolicy) := [
  { key := "flag_policy", get := id, set := fun p _ => p, spells := IsPolicy
    default := some .local }]

/-- what is written if the table `emit` is not there -/
def plainEmission : Emission where
  serviceTable := none
  makeFlags := none
  style := { table := "TASK_FILES", itemType := "KernelServices", itemMacro := "service"
             flagMark := "--cfg=" }
  templates := []

def schema : List (Spelling Manifest) := [
  { key := "plan", get := Manifest.policy, set := fun p m => { m with policy := p }
    spells := IsTable planSchema, default := some .local },
  { key := "emit", get := Manifest.emission, set := fun e m => { m with emission := e }
    spells := IsTable emissionSchema, default := some plainEmission },
  { key := "tasks", get := Manifest.tasks, set := fun l m => { m with tasks := l }
    spells := IsList (IsTable taskSchema), default := some [] }]

/-! ## the readers -/

theorem obeys_taskRecord : taskRecord.Obeys taskSchema where
  strict := rfl
  nodup := by decide
  fields := by
    refine .cons ⟨rfl, fun _ => rfl, fun c v h x => map_eq_ok (text_eq_ok h) _⟩ ?_
    refine .cons ⟨rfl, fun _ => rfl, fun c v h x => map_eq_ok (text_eq_ok h) _⟩ ?_
    refine .cons ⟨rfl, nofun, fun c v h x => map_eq_ok (list_eq_ok memoryRegion_eq_ok h) _⟩ ?_
    refine .cons ⟨rfl, nofun, fun c v h x => map_eq_ok (list_eq_ok dmaRegion_eq_ok h) _⟩ ?_
    refine .cons ⟨rfl, nofun, fun c v h x => map_eq_ok (texts_eq_ok h) _⟩ ?_
    exact .cons ⟨rfl, nofun, fun c v h x => map_eq_ok (texts_eq_ok h) _⟩ .nil
  apart := by simp [taskSchema]
  default := by simp [taskSchema, taskRecord]
  ext := by
    rintro ⟨name, source, ⟨memory, dma⟩, dependencies, flags⟩
      ⟨name', source', ⟨memory', dma'⟩, dependencies', flags'⟩ h
    simpa [taskSchema, and_assoc] using h

theorem obeys_templateRecord : templateRecord.Obeys templateSchema where
  strict := rfl
  nodup := by decide
  fields := by
    refine .cons ⟨rfl, fun _ => rfl, fun c v h x => map_eq_ok (text_eq_ok h) _⟩ ?_
    refine .cons ⟨rfl, fun _ => rfl, fun c v h x => map_eq_ok (text_eq_ok h) _⟩ ?_
    exact .cons ⟨rfl, fun _ => rfl, fun c v h x => map_eq_ok (text_eq_ok h) _⟩ .nil
  apart := by simp [templateSchema]
  default := by simp [templateSchema]
  ext := by
    rintro ⟨name, source, output⟩ ⟨name', source', output'⟩ h
    simpa [templateSchema] using h

/-- an output that is there -/
theorem map_some_eq_ok {o : Option String} (h : IsSome o v) (f : Option String → Emission) :
    ((Toml.text v).map fun s => f (some s)) = .ok (f o) := by
  obtain ⟨s, rfl, hs⟩ := h
  exact map_eq_ok (text_eq_ok hs) _

theorem obeys_emissionRecord : emissionRecord.Obeys emissionSchema where
  strict := rfl
  nodup := by decide
  fields := by
    refine .cons ⟨rfl, nofun, fun o v h x =>
      map_some_eq_ok h fun o => { x with serviceTable := o }⟩ ?_
    refine .cons ⟨rfl, nofun, fun o v h x =>
      map_some_eq_ok h fun o => { x with makeFlags := o }⟩ ?_
    refine .cons ⟨rfl, nofun, fun c v h x => map_eq_ok (text_eq_ok h) _⟩ ?_
    refine .cons ⟨rfl, nofun, fun c v h x => map_eq_ok (text_eq_ok h) _⟩ ?_
    refine .cons ⟨rfl, nofun, fun c v h x => map_eq_ok (text_eq_ok h) _⟩ ?_
    refine .cons ⟨rfl, nofun, fun c v h x => map_eq_ok (text_eq_ok h) _⟩ ?_
    refine .cons ⟨rfl, nofun, fun c v h x => map_eq_ok ?_ _⟩ .nil
    exact list_eq_ok (Record.read_of_isTable obeys_templateRecord) h
  apart := by simp [emissionSchema]
  default := by simp [emissionSchema, emissionRecord]
  ext := by
    rintro ⟨table, make, ⟨name, itemType, itemMacro, mark⟩, templates⟩
      ⟨table', make', ⟨name', itemType', itemMacro', mark'⟩, templates'⟩ h
    simpa [emissionSchema, and_assoc] using h

theorem obeys_planRecord : planRecord.Obeys planSchema where
  strict := rfl
  nodup := by decide
  fields := .cons ⟨rfl, nofun, fun c v h x => policy_eq_ok h⟩ .nil
  apart := by simp [planSchema]
  default := by simp [planSchema, planRecord]
  ext := by simp [planSchema]

theorem obeys_record : record.Obeys schema where
  strict := rfl
  nodup := by decide
  fields := by
    refine .cons ⟨rfl, nofun, fun p v h x => map_eq_ok ?_ _⟩ ?_
    · exact Record.read_of_isTable obeys_planRecord p v h
    refine .cons ⟨rfl, nofun, fun e v h x => map_eq_ok ?_ _⟩ ?_
    · exact Record.read_of_isTable obeys_emissionRecord e v h
    refine .cons ⟨rfl, nofun, fun l v h x => map_eq_ok ?_ _⟩ .nil
    exact list_eq_ok (Record.read_of_isTable obeys_taskRecord) h
  apart := by simp [schema]
  default := by simp [schema, record, plainEmission]
  ext := by
    rintro ⟨policy, emission, tasks⟩ ⟨policy', emission', tasks'⟩ h
    simpa [schema] using h

/-! ## keys that no table has -/

/-- Some table of the document has a key that is none of its fields. The templates are listed in the
table `emit`, or in their place among its fields if these are listed without their keys. -/
inductive HasStrayKey (doc : List (String × Value)) : Prop
  | document (h : Strays schema doc)
  | plan {entries : List (String × Value)} (hplan : ("plan", .table entries) ∈ doc)
      (h : Strays planSchema entries)
  | emission {entries : List (String × Value)} (hemit : ("emit", .table entries) ∈ doc)
      (h : Strays emissionSchema entries)
  | template {emit : Value} {items : List Value} {entries : List (String × Value)}
      (hemit : ("emit", emit) ∈ doc)
      (htemplates : FieldOf (emissionSchema.map Spelling.key) emit "templates" (.array items))
      (hitem : .table entries ∈ items) (h : Strays templateSchema entries)
  | task {items : List Value} {entries : List (String × Value)}
      (htasks : ("tasks", .array items) ∈ doc) (hitem : .table entries ∈ items)
      (h : Strays taskSchema entries)

/-- **A key that is no field is an error**, whatever the rest holds. -/
theorem readTable_of_hasStrayKey {doc : List (String × Value)} (h : HasStrayKey doc) :
    ∃ e, record.readTable doc = .error e := by
  cases h with
  | document h => exact Record.readTable_of_strays obeys_record h
  | plan hplan h =>
    refine Record.readTable_eq_error hplan fun m => ?_
    exact map_eq_error (Record.readTable_of_strays obeys_planRecord h) _
  | emission hemit h =>
    refine Record.readTable_eq_error hemit fun m => ?_
    exact map_eq_error (Record.readTable_of_strays obeys_emissionRecord h) _
  | template hemit htemplates hitem h =>
    refine Record.readTable_eq_error hemit fun m => map_eq_error ?_ _
    refine Record.read_eq_error obeys_emissionRecord.nodup_names htemplates fun e => ?_
    exact map_eq_error (Record.list_of_strays obeys_templateRecord hitem h) _
  | task htasks hitem h =>
    refine Record.readTable_eq_error htasks fun m => ?_
    exact map_eq_error (Record.list_of_strays obeys_taskRecord hitem h) _

/-! ## every manifest can be said -/

theorem exists_isText (s : String) : ∃ v, IsText s v := ⟨_, rfl⟩

theorem exists_texts (l : List String) : ∃ v, IsList IsText l v :=
  Toml.exists_isList exists_isText l

theorem exists_isSome (o : Option String) : (∃ v, IsSome o v) ∨ some none = some o := by
  cases o with
  | none => exact .inr rfl
  | some s => exact .inl ⟨_, s, rfl, rfl⟩

theorem exists_task (d : Declaration) : ∃ v, IsTable taskSchema d v := by
  refine Toml.exists_isTable ?_
  simp only [taskSchema, List.forall_mem_cons]
  have hmemory : ∀ r, ∃ v, IsMemoryRegion r v := fun r => ⟨_, rfl⟩
  have hdma : ∀ r, ∃ v, IsDmaRegion r v := fun r => ⟨_, rfl⟩
  exact ⟨.inl (exists_isText _), .inl (exists_isText _), .inl (Toml.exists_isList hmemory _),
    .inl (Toml.exists_isList hdma _), .inl (exists_texts _), .inl (exists_texts _), nofun⟩

theorem exists_template (t : TemplateEntry) : ∃ v, IsTable templateSchema t v := by
  refine Toml.exists_isTable ?_
  simp only [templateSchema, List.forall_mem_cons]
  exact ⟨.inl (exists_isText _), .inl (exists_isText _), .inl (exists_isText _), nofun⟩

theorem exists_emission (e : Emission) : ∃ v, IsTable emissionSchema e v := by
  refine Toml.exists_isTable ?_
  simp only [emissionSchema, List.forall_mem_cons]
  exact ⟨exists_isSome _, exists_isSome _, .inl (exists_isText _), .inl (exists_isText _),
    .inl (exists_isText _), .inl (exists_isText _),
    .inl (Toml.exists_isList exists_template _), nofun⟩

theorem exists_plan (p : FlagPolicy) : ∃ v, IsTable planSchema p v := by
  refine Toml.exists_isTable ?_
  simp only [planSchema, List.forall_mem_cons]
  exact ⟨.inl (exists_isText _), nofun⟩

theorem exists_spells_schema (m : Manifest) : ∃ doc, Spells schema m doc := by
  refine Toml.exists_spells ?_
  simp only [schema, List.forall_mem_cons]
  exact ⟨.inl (exists_plan _), .inl (exists_emission _),
    .inl (Toml.exists_isList exists_task _), nofun⟩

/-- **Manifests are strict and complete.** A document with a key that its table does not have cannot
be read, whatever the rest holds. A document that says a manifest is read as just this manifest, and
every manifest can be said; so the tasks are the declarations of the document in their order, with
all that is said of them. Whatever reads documents, a text is a manifest as its document is. -/
theorem strict_and_complete [Library] :
    (∀ doc, HasStrayKey doc → ∃ e, record.readTable doc = .error e) ∧
    (∀ m doc, Spells schema m doc → record.readTable doc = .ok m) ∧
    (∀ m, ∃ doc, Spells schema m doc) ∧
    ∀ source doc, Library.document source = .ok doc →
      parse source = (record.readTable doc).mapError .unfit := by
  refine ⟨fun doc => readTable_of_hasStrayKey, fun m doc => Record.readTable_of_spells obeys_record,
    exists_spells_schema, fun source doc h => ?_⟩
  rw [parse, Record.parse, h]
  rfl

/-! ## a manifest in another order -/

/-- a driver with a window at the end of all addresses -/
def uartTask : Declaration where
  name := "uart"
  source := "uart.elf"
  resources := { dma := [{ addr := 0xfffffffffffff000, size := 0x1000 }] }

def uart : Manifest where
  policy := .transitive
  emission := { plainEmission with serviceTable := some "tasks.rs" }
  tasks := [uartTask]

def uartEntries : List (String × Value) := [
  ("dma", .array [.array [.integer 0xfffffffffffff000, .integer 0x1000]]),
  ("file", .string "uart.elf"), ("name", .string "uart")]

/-- a document with one task; its tables come in the reverse of their order in the schema -/
def uartDocument (task : List (String × Value)) : List (String × Value) := [
  ("tasks", .array [.table task]), ("emit", .table [("rust", .string "tasks.rs")]),
  ("plan", .table [("flag_policy", .string "transitive")])]

def uartText : String :=
  "tasks = [\x7b dma = [[0xfffffffffffff000, 0x1000]], file = 'uart.elf', name = 'uart' \x7d]\n" ++
    "emit.rust = 'tasks.rs'\n[plan]\nflag_policy = 'transitive'"

theorem read_uartText : Library.document uartText = .ok (uartDocument uartEntries) := by cbv

theorem spells_uart : Spells schema uart (uartDocument uartEntries) := by
  have htask : Spells taskSchema uartTask uartEntries := by
    constructor
    · simp [uartEntries, taskSchema, uartTask, IsText, IsList, IsRow, IsDmaRegion]
    · simp [uartEntries, taskSchema, uartTask]
  have hemission : Spells emissionSchema uart.emission [("rust", .string "tasks.rs")] := by
    constructor
    · simp [emissionSchema, uart, IsText, IsSome]
    · simp [emissionSchema, uart, plainEmission]
  have hplan : Spells planSchema uart.policy [("flag_policy", .string "transitive")] := by
    constructor
    · simp [planSchema, uart, IsPolicy, IsText, FlagPolicy.label]
    · simp [planSchema]
  constructor
  · simpa [uartDocument, schema, IsTable, IsList, uart] using ⟨htask, hemission, hplan⟩
  · simp [uartDocument, schema]

theorem strict_and_complete_uart :
    Library.document uartText = .ok (uartDocument uartEntries) ∧
    Spells schema uart (uartDocument uartEntries) ∧ parse uartText = .ok uart ∧
    HasStrayKey (uartDocument (("dep", .array []) :: uartEntries)) ∧
    ∃ e, record.readTable (uartDocument (("dep", .array []) :: uartEntries)) = .error e := by
  have hstray : HasStrayKey (uartDocument (("dep", .array []) :: uartEntries)) :=
    .task List.mem_cons_self List.mem_cons_self ⟨_, List.mem_cons_self, by decide⟩
  obtain ⟨hstrict, hcomplete, -, hparse⟩ := strict_and_complete
  refine ⟨read_uartText, spells_uart, ?_, hstray, hstrict _ hstray⟩
  rw [hparse _ _ read_uartText, hcomplete _ _ spells_uart]
  rfl

end ServiceBoundary.Manifest
