import ServiceBoundary.Proofs.Rebuild

/-!
# Where outputs go

All texts of a run go the same way. If one of the two fragments has a file and nobody asks for
printing, each text goes to the file that it belongs in, and nothing is printed but the document.
Else all of them are printed, and no file is touched but that of the report. Templates always have a
file, but they do not count here: where no fragment has one, they are printed too.

* `Decision.Makes`       the outputs of a decision;
* `Outputs.Delivered`    each text is in the file that it belongs in;
* `exists_makes`         a run makes the outputs of its decision before anything is written;
* `holds_of_writing`, `output_of_writing`   what is in the files then, and what is printed;
* `texts_go_one_way`     where the texts of a command line go;
* `seed_printed`         a template whose output is printed though it has a file.
-/

namespace ServiceBoundary
open Relation

variable {args : List String} {o : Options} {l : Locator} {w w' u v : Workspace} {p q : Point}
  {d : Decision} {out : Outputs}

/-- the outputs of a decision; the templates are as they are in the workspace -/
structure Decision.Makes [Library] (o : Options) (d : Decision) (u : Workspace) (out : Outputs) :
    Prop where
  document : out.document = if o.json then some (Fragment.document d.plan) else none
  serviceTable : out.serviceTable = Fragment.serviceTable d.manifest.emission.style d.plan
  tablePath : d.locator.outputPath o.serviceTable d.manifest.emission.serviceTable =
    .ok out.tablePath
  makeFlags : out.makeFlags = Fragment.makeFlags d.manifest.emission.style d.plan
  makePath : d.locator.outputPath o.makeFlags d.manifest.emission.makeFlags = .ok out.makePath
  templates : d.manifest.emission.templates.mapM (d.rendered u) = .ok out.templates

/-- each text is in the file that it belongs in -/
structure Outputs.Delivered (out : Outputs) (w : Workspace) : Prop where
  serviceTable : ∀ path ∈ out.tablePath, w.Holds path out.serviceTable
  makeFlags : ∀ path ∈ out.makePath, w.Holds path out.makeFlags
  templates : ∀ t ∈ out.templates, w.Holds t.output t.text

/-! ## making outputs -/

section
variable [Library]

theorem exists_next (h : ReflTransGen (Step o l) (p, u) (.finished, w')) (hp : p ≠ .finished) :
    ∃ q, Next o l u p q ∧ Step o l (p, u) (q, (p.attempt o l u).2) ∧
      ReflTransGen (Step o l) (q, (p.attempt o l u).2) (.finished, w') := by
  obtain heq | ⟨⟨q, v⟩, hstep, hrest⟩ := h.cases_head
  · cases heq
    exact absurd rfl hp
  · obtain rfl : (p.attempt o l u).2 = v := congrArg Prod.snd hstep
    exact ⟨q, next_of_step hstep, hstep, hrest⟩

theorem exists_rendered {tablePath makePath : Option String} {done : List RenderedTemplate}
    {entries : List TemplateEntry}
    (h : ReflTransGen (Step o l) (.rendering d tablePath makePath done entries, u)
      (.finished, w')) :
    ∃ ts, entries.mapM (d.rendered u) = .ok ts ∧
      ReflTransGen (Step o l) (.rendering d tablePath makePath done entries, u)
        (.writing (d.outputs o tablePath makePath (done ++ ts))
          (d.writes o tablePath makePath (done ++ ts)), u) := by
  induction entries generalizing done with
  | nil =>
    obtain ⟨q, hnext, hstep, -⟩ := exists_next h nofun
    cases hnext with
    | rendered => exact ⟨[], rfl, by rw [List.append_nil]; exact .single hstep⟩
  | cons entry entries ih =>
    obtain ⟨q, hnext, hstep, hrest⟩ := exists_next h nofun
    cases hnext with
    | @render _ _ _ _ _ _ t ht =>
      obtain ⟨ts, hts, hwriting⟩ := ih hrest
      rw [List.append_assoc, List.singleton_append] at hwriting
      refine ⟨t :: ts, ?_, .head hstep hwriting⟩
      rw [List.mapM_cons]
      exact bind_eq_ok_iff.2 ⟨t, ht, bind_eq_ok_iff.2 ⟨ts, hts, rfl⟩⟩

/-- **All outputs are made before one is written.** -/
theorem exists_makes (h : ReflTransGen (Step o l) (.reported d, u) (.finished, w')) :
    ∃ out, d.Makes o u out ∧
      ReflTransGen (Step o l) (.reported d, u) (.writing out (out.files o), u) := by
  obtain ⟨q, hnext, htableStep, hplaced⟩ := exists_next h nofun
  cases hnext with
  | placeTable htable =>
    obtain ⟨q, hnext, hmakeStep, hrendering⟩ := exists_next (u := u) hplaced nofun
    cases hnext with
    | placeMakeFlags hmake =>
      obtain ⟨ts, hts, hwriting⟩ := exists_rendered (u := u) hrendering
      rw [writes_eq_files] at hwriting
      exact ⟨_, ⟨rfl, rfl, htable, rfl, hmake, hts⟩, .head htableStep (.head hmakeStep hwriting)⟩

/-! ## writing and printing -/

theorem eq_of_writing_nil (h : ReflTransGen (Step o l) (.writing out [], u) (.finished, w')) :
    w' = { u with output := u.output ++ out.printed o } := by
  obtain ⟨q, hnext, -, hwritten⟩ := exists_next h nofun
  cases hnext with
  | written =>
    obtain ⟨q, hnext, -, hfinished⟩ := exists_next hwritten nofun
    cases hnext with
    | print => exact congrArg Prod.snd (eq_of_steps_finished hfinished)

theorem output_of_writing {rest : List Delivery}
    (h : ReflTransGen (Step o l) (.writing out rest, u) (.finished, w')) :
    w'.output = u.output ++ out.printed o := by
  induction rest generalizing u with
  | nil => rw [eq_of_writing_nil h]
  | cons delivery rest ih =>
    obtain ⟨q, hnext, hstep, hrest⟩ := exists_next h nofun
    cases hnext with
    | write =>
      rw [ih hrest, output_of_step hstep]
      exact congrArg (· ++ out.printed o) String.append_empty

theorem holds_of_writing (hd : Decides o l w d) (hend : Reaches o l w .finished w')
    (hapart : (d.written o).Pairwise fun a b => w'.place a ≠ w'.place b) {rest : List Delivery}
    (h : Reaches o l w (.writing out rest) u) :
    ∀ delivery ∈ rest, w'.Holds delivery.path delivery.text := by
  induction rest generalizing u with
  | nil => exact nofun
  | cons delivery rest ih =>
    intro other hother
    obtain rfl | hother := List.mem_cons.1 hother
    · exact holds_of_finished hd hend hapart h .delivery
    · obtain ⟨q, hnext, hstep, -⟩ := exists_next (h.completes hend) nofun
      cases hnext with
      | write => exact ih (h.tail hstep) other hother

end

theorem delivered_of_deliveries
    (h : ∀ delivery ∈ out.deliveries, w.Holds delivery.path delivery.text) : out.Delivered w where
  serviceTable path hpath := by
    refine h ⟨none, path, out.serviceTable⟩ (List.mem_append_left _ (List.mem_append_left _ ?_))
    rw [hpath]
    exact List.mem_singleton_self _
  makeFlags path hpath := by
    refine h ⟨none, path, out.makeFlags⟩ (List.mem_append_left _ (List.mem_append_right _ ?_))
    rw [hpath]
    exact List.mem_singleton_self _
  templates t ht :=
    h ⟨some t.name, t.output, t.text⟩
      (List.mem_append_right _ (List.mem_map_of_mem ht))

theorem isPrinted_iff : out.isPrinted o = true ↔
    o.toOutput = true ∨ out.tablePath = none ∧ out.makePath = none := by
  rw [Outputs.isPrinted, Bool.or_eq_true, Bool.and_eq_true, Option.isNone_iff_eq_none,
    Option.isNone_iff_eq_none]

/-! ## command lines -/

/-- **All texts go the same way.** A command line succeeded. If a fragment has a file and printing
was not asked for, each text is in its file, where files are at different places, and nothing but
the document is printed. Else all texts are printed, and only the file of the report can differ. -/
theorem texts_go_one_way [Library] (hargs : Library.options args = .ok o)
    (h : Host.execute (m := StateM Workspace) args l w = (0, w')) :
    ∃ d u out, Reaches o l { w with threshold := threshold o l } (.reported d) u ∧
      d.Makes o u out ∧
      (o.toOutput = false → out.tablePath.isSome ∨ out.makePath.isSome →
        w'.output = w.output ++ out.document.getD "" ∧
        ((d.written o).Pairwise (fun a b => w'.place a ≠ w'.place b) → out.Delivered w')) ∧
      (o.toOutput = true ∨ out.tablePath = none ∧ out.makePath = none →
        w'.output = w.output ++ (out.document.getD "" ++ out.listing) ∧
        Workspace.Confined (fun path => o.reportFile = some path) w w') := by
  have hend := (execute_eq_zero_iff hargs).1 h
  obtain ⟨p, u, q, v, hp, -, hstage, -⟩ := passed_of_lt hend (s := .placeTable) (by decide)
  cases p with
  | reported d =>
    have hd : Decides o l { w with threshold := threshold o l } d := backed_of_reaches hp
    obtain ⟨out, hmakes, hmade⟩ := exists_makes (hp.completes hend)
    have hwriting : Reaches o l { w with threshold := threshold o l }
      (.writing out (out.files o)) u := hp.trans hmade
    have hrest := hwriting.completes hend
    have htouches := touches_report_of_reaches hp (Nat.le_of_ble_eq_true rfl)
    have houtput : w'.output = w.output ++ out.printed o :=
      (output_of_writing hrest).trans (congrArg (· ++ out.printed o) htouches.output_eq)
    refine ⟨d, u, out, hp, hmakes, fun hoff hpath => ?_, fun hprinted => ?_⟩
    · have hwritten : out.isPrinted o = false := by
        rw [← Bool.not_eq_true, isPrinted_iff, hoff]
        rintro (hon | ⟨htable, hmake⟩)
        · cases hon
        · simp [htable, hmake] at hpath
      refine ⟨?_, fun hapart => delivered_of_deliveries ?_⟩
      · rw [houtput, Outputs.printed, hwritten, if_neg Bool.false_ne_true, String.append_empty]
      · have hfiles : out.files o = out.deliveries := if_neg (ne_true_of_eq_false hwritten)
        rw [← hfiles]
        exact holds_of_writing hd hend hapart hwriting
    · have hprinted : out.isPrinted o = true := isPrinted_iff.2 hprinted
      have hfiles : out.files o = [] := if_pos hprinted
      rw [hfiles] at hrest
      refine ⟨?_, ?_⟩
      · rw [houtput, Outputs.printed, if_pos hprinted]
      · rw [eq_of_writing_nil hrest]
        exact htouches.confined
  | _ => cases hstage

theorem seed_delivered :
    let args := ["--manifest", "m", "--root", "a", "--rust-out", "b"]
    let w : Workspace := .seed Manifest.seedText [] ""
    Library.options args = .ok (.seed (some "b")) ∧
      ∃ w', Host.execute (m := StateM Workspace) args .seed w = (0, w') ∧ w'.output = "" ∧
        (Decision.seed.written (.seed (some "b"))).Pairwise (fun a b => w'.place a ≠ w'.place b) ∧
        ∃ u out, Decision.seed.Makes (.seed (some "b")) u out ∧ out.tablePath = some "b" ∧
          out.templates.length = 1 ∧ out.Delivered w' := by
  intro args w
  have hargs : Library.options args = .ok (.seed (some "b")) := by decide
  obtain ⟨table, notes, hend⟩ := finished_seed parse_seedText
  have hrun := (execute_eq_zero_iff (w := w) hargs).2 hend
  obtain ⟨d, u, out, hp, hmakes, hfiles, -⟩ := texts_go_one_way hargs hrun
  cases eq_of_decides (decides_seed _ parse_seedText) (backed_of_reaches hp)
  have htable : out.tablePath = some "b" := (Except.ok.inj hmakes.tablePath).symm
  have hlength := (mapM_eq_ok_iff.1 hmakes.templates).length_eq
  obtain ⟨houtput, hdelivered⟩ := hfiles rfl (.inl (by rw [htable]; rfl))
  refine ⟨hargs, _, hrun, ?_, apart_seed.written, u, out, hmakes, htable, hlength.symm,
    hdelivered apart_seed.written⟩
  rw [houtput, hmakes.document]
  rfl

/-- without one, the template is printed though it has a file -/
theorem seed_printed :
    let args := ["--manifest", "m", "--root", "a"]
    let w : Workspace := .seed Manifest.seedText [] ""
    Library.options args = .ok (.seed none) ∧ (Options.seed none).toOutput = false ∧
      Decides (.seed none) .seed w .seed ∧
      (∃ entry ∈ Decision.seed.manifest.emission.templates,
        Decision.seed.locator.resolve entry.output = .ok "/o") ∧
      ∃ w', Host.execute (m := StateM Workspace) args .seed w = (0, w') ∧ w'.tree = w.tree ∧
        (¬ ∃ text, w'.Holds "/o" text) ∧ w'.output ≠ "" := by
  intro args w
  have hargs : Library.options args = .ok (.seed none) := by decide
  have houtput : Decision.seed.locator.resolve "o" = .ok "/o" := by decide +kernel
  have hmissing : ∀ manifest, (Workspace.seed manifest [] "").place "/o" = .error .missing := by
    intro manifest
    cbv
  have hprinted : "" ++ (Decision.seed.outputs (.seed none) none none [.seed]).printed
      (.seed none) ≠ "" := by decide +kernel
  obtain ⟨notes, hwriting⟩ := writing_seed none parse_seedText
  have hend := (hwriting.next .written rfl).next .print rfl
  refine ⟨hargs, rfl, decides_seed _ parse_seedText, ⟨_, List.mem_singleton_self _, houtput⟩, _,
    (execute_eq_zero_iff hargs).2 hend, rfl, ?_, ?_⟩
  · rintro ⟨text, htext⟩
    obtain ⟨here, hhere⟩ := Workspace.exists_place_of_holds
      ((Workspace.holds_congr (w := w) rfl rfl).1 htext)
    cases (hmissing _).symm.trans hhere
  · exact hprinted

end ServiceBoundary
