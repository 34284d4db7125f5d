import ChordDrill.Proofs.Combo.RoundTrip
import ChordDrill.Startup

/-!
# ChordDrill.Proofs.Catalog.Loading

What catalog files give, and the catalog at the start.

* `FirstBad`    — a list with a bad element behind good ones.
* `Entry.Reads` — a record and its shortcut.
* `Decodes`     — a text and its records; `Undecoded` for a text that has none.
* `Holds`       — a file and its shortcuts; `Fails` for a file that has none.

Each stage of loading is compared with what it stands for, once for its value and once for its
fault, from records (`actionsFrom_eq_ok_iff`, `actionsFrom_eq_error_iff`) over files
(`load_eq_ok_iff`, `load_eq_error_iff`) to lists of files (`loadAll_eq_ok_iff`,
`loadAll_eq_error_iff`). The first fault decides at each stage, so nothing behind it is mentioned.
-/

namespace ChordDrill.Catalog

open Combo

/-- Some element is bad at its place, and all before it are good. -/
def FirstBad {α : Type} (good : α → Prop) (bad : Nat → α → Prop) (xs : List α) : Prop :=
  ∃ before x after, xs = before ++ x :: after ∧ (∀ y ∈ before, good y) ∧ bad before.length x

/-- The shortcut that a record writes. -/
structure Entry.Reads (e : Entry) (a : Action) : Prop where
  context : a.context = e.context
  combo : parse e.combo = .ok a.combo
  description : a.description = e.description

/-- The records of a text, in the format that the path names. -/
inductive Decodes (path text : String) (es : List Entry) : Prop where
  | toml : extension? path = some "toml" → Entry.ofToml? text = some es → Decodes path text es
  | json : extension? path = some "json" → Entry.ofJson? text = some es → Decodes path text es

/-- A text that gives no records, or whose path names no format. -/
inductive Undecoded (path text : String) : Fault → Prop where
  | toml : extension? path = some "toml" → Entry.ofToml? text = none →
      Undecoded path text (.toml path)
  | json : extension? path = some "json" → Entry.ofJson? text = none →
      Undecoded path text (.json path)
  | unsupported : extension? path ≠ some "toml" → extension? path ≠ some "json" →
      Undecoded path text (.unsupportedFormat path)

/-- The file at a path holds these shortcuts, one for each of its records. -/
def Holds (f : Files) (path : String) (as : List Action) : Prop :=
  ∃ text es, f.readText path = .ok text ∧ Decodes path text es ∧ List.Forall₂ Entry.Reads es as

/-- Why the file at a path gives no shortcuts: it cannot be read, or has no records, or some combo
in its records cannot be read; then the first such record counts. -/
inductive Fails (f : Files) (path : String) : Fault → Prop where
  | unread {e : FileFault} : f.readText path = .error e → Fails f path (.file path e)
  | undecoded {text : String} {fault : Fault} : f.readText path = .ok text →
      Undecoded path text fault → Fails f path fault
  | badEntry {text : String} {es : List Entry} {fault : Fault} : f.readText path = .ok text →
      Decodes path text es →
      FirstBad (fun e => ∃ ms, parse e.combo = .ok ms)
        (fun i e => ∃ bad, parse e.combo = .error bad ∧ fault = .entry path i bad) es →
      Fails f path fault

variable {f : Files} {path text : String} {e : Entry} {es : List Entry} {a : Action}
  {as : List Action} {fault : Fault} {i : Nat} {c d : Catalog} {paths : List String}

section

variable {α : Type} {good : α → Prop} {bad : Nat → α → Prop} {x : α} {xs : List α}

theorem not_firstBad_nil : ¬ FirstBad good bad [] := by
  rintro ⟨before, x, after, hnil, _⟩
  simp at hnil

theorem firstBad_cons : FirstBad good bad (x :: xs) ↔
    bad 0 x ∨ good x ∧ FirstBad good (fun i => bad (i + 1)) xs := by
  constructor
  · rintro ⟨_ | ⟨y, before⟩, z, after, hxs, hgood, hbad⟩
    · cases hxs
      exact .inl hbad
    · cases hxs
      have hbefore := List.forall_mem_cons.mp hgood
      exact .inr ⟨hbefore.1, before, z, after, rfl, hbefore.2, hbad⟩
  · rintro (hbad | ⟨hx, before, z, after, rfl, hgood, hbad⟩)
    · exact ⟨[], x, xs, rfl, by simp, hbad⟩
    · exact ⟨x :: before, z, after, rfl, List.forall_mem_cons.mpr ⟨hx, hgood⟩, hbad⟩

end

/-! ## Records -/

theorem read_eq_ok_iff : Action.read e.context e.combo e.description = .ok a ↔ e.Reads a := by
  unfold Action.read
  constructor
  · intro h
    split at h
    · rename_i hp
      cases h
      exact ⟨rfl, hp, rfl⟩
    · cases h
  · rintro ⟨hcontext, hcombo, hdescription⟩
    rw [hcombo, ← hcontext, ← hdescription]

theorem read_eq_error_iff {fault : Combo.Fault} :
    Action.read e.context e.combo e.description = .error fault ↔ parse e.combo = .error fault := by
  unfold Action.read
  cases parse e.combo <;> simp

theorem actionsFrom_eq_ok_iff :
    actionsFrom path i es = .ok as ↔ List.Forall₂ Entry.Reads es as := by
  induction es generalizing i as with
  | nil => simp [actionsFrom, eq_comm]
  | cons e es ih =>
    rw [actionsFrom, List.forall₂_cons_left_iff]
    cases hr : Action.read e.context e.combo e.description with
    | error fault =>
      have hno : ∀ a, ¬ e.Reads a := fun a ha => by
        rw [read_eq_ok_iff.mpr ha] at hr
        cases hr
      simp [hno]
    | ok a =>
      have hall : ∀ b, e.Reads b ↔ b = a := fun b => by
        rw [← read_eq_ok_iff, hr, Except.ok.injEq, eq_comm]
      simp only [hall, ← ih (i := i + 1)]
      cases actionsFrom path (i + 1) es with
      | error fault => simp
      | ok as' => simp [eq_comm]

theorem actionsFrom_eq_error_iff :
    actionsFrom path i es = .error fault ↔
      FirstBad (fun e => ∃ ms, parse e.combo = .ok ms)
        (fun n e => ∃ bad, parse e.combo = .error bad ∧ fault = .entry path (i + n) bad) es := by
  induction es generalizing i with
  | nil => simp [actionsFrom, not_firstBad_nil]
  | cons e es ih =>
    rw [actionsFrom, firstBad_cons]
    cases hr : Action.read e.context e.combo e.description with
    | error bad =>
      have hp := read_eq_error_iff.mp hr
      simp [hp, eq_comm]
    | ok a =>
      have hp := (read_eq_ok_iff.mp hr).combo
      have hrest := ih (i := i + 1)
      simp only [Nat.add_assoc, Nat.add_comm 1] at hrest
      rw [← hrest]
      cases actionsFrom path (i + 1) es <;> simp [hp]

/-! ## Files -/

theorem entries_eq_ok_iff : entries path text = .ok es ↔ Decodes path text es := by
  constructor
  · intro h
    unfold entries at h
    split at h
    · rename_i hext
      split at h
      · rename_i hes
        cases h
        exact .toml hext hes
      · cases h
    · rename_i hext
      split at h
      · rename_i hes
        cases h
        exact .json hext hes
      · cases h
    · cases h
  · intro h
    cases h with
    | toml hext hes => simp only [entries, hext, hes]
    | json hext hes => simp only [entries, hext, hes]

theorem entries_eq_error_iff : entries path text = .error fault ↔ Undecoded path text fault := by
  constructor
  · intro h
    unfold entries at h
    split at h
    · rename_i hext
      split at h
      · cases h
      · rename_i hes
        cases h
        exact .toml hext hes
    · rename_i hext
      split at h
      · cases h
      · rename_i hes
        cases h
        exact .json hext hes
    · rename_i htoml hjson
      cases h
      exact .unsupported htoml hjson
  · intro h
    cases h with
    | toml hext hes => simp only [entries, hext, hes]
    | json hext hes => simp only [entries, hext, hes]
    | unsupported htoml hjson =>
      unfold entries
      split
      · contradiction
      · contradiction
      · rfl

theorem load_eq_ok_iff : load f path = .ok d ↔ Holds f path d.actions := by
  constructor
  · intro h
    unfold load at h
    split at h
    · cases h
    rename_i text htext
    split at h
    · cases h
    rename_i es hes
    split at h
    · rename_i as has
      cases h
      exact ⟨text, es, htext, entries_eq_ok_iff.mp hes, actionsFrom_eq_ok_iff.mp has⟩
    · cases h
  · rintro ⟨text, es, htext, hes, has⟩
    simp only [load, htext, entries_eq_ok_iff.mpr hes, actionsFrom_eq_ok_iff.mpr has]

theorem load_eq_error_iff : load f path = .error fault ↔ Fails f path fault := by
  constructor
  · intro h
    unfold load at h
    split at h
    · rename_i e he
      cases h
      exact .unread he
    rename_i text htext
    split at h
    · rename_i hes
      cases h
      exact .undecoded htext (entries_eq_error_iff.mp hes)
    rename_i es hes
    split at h
    · cases h
    · rename_i hbad
      cases h
      have hfirst := actionsFrom_eq_error_iff.mp hbad
      simp only [Nat.zero_add] at hfirst
      exact .badEntry htext (entries_eq_ok_iff.mp hes) hfirst
  · intro h
    cases h with
    | unread he => simp only [load, he]
    | undecoded htext hfault => simp only [load, htext, entries_eq_error_iff.mpr hfault]
    | @badEntry text es _ htext hes hfirst =>
      have hbad : actionsFrom path 0 es = .error fault := by
        rw [actionsFrom_eq_error_iff]
        simpa only [Nat.zero_add] using hfirst
      simp only [load, htext, entries_eq_ok_iff.mpr hes, hbad]

theorem holds_iff (h : load f path = .ok d) : Holds f path as ↔ as = d.actions := by
  have hload : load f path = .ok ⟨as⟩ ↔ Holds f path as := load_eq_ok_iff
  obtain ⟨bs⟩ := d
  rw [← hload, h]
  simp [eq_comm]

theorem not_holds (h : load f path = .error fault) : ¬ Holds f path as := by
  intro has
  have hload : load f path = .ok ⟨as⟩ := load_eq_ok_iff.mpr has
  rw [h] at hload
  cases hload

theorem loadAll_eq_ok_iff : loadAll f c paths = .ok d ↔
    ∃ shelves, List.Forall₂ (Holds f) paths shelves ∧ d.actions = c.actions ++ shelves.flatten := by
  induction paths generalizing c with
  | nil =>
    obtain ⟨as⟩ := c
    obtain ⟨bs⟩ := d
    simp [loadAll, eq_comm]
  | cons path paths ih =>
    rw [loadAll]
    simp only [List.forall₂_cons_left_iff]
    cases hl : load f path with
    | error e => simp [not_holds hl]
    | ok d' =>
      simp only [holds_iff hl, ih, actions_extend]
      constructor
      · rintro ⟨shelves, hshelves, hd⟩
        refine ⟨d'.actions :: shelves, ⟨_, shelves, rfl, hshelves, rfl⟩, ?_⟩
        rw [hd, List.flatten_cons, List.append_assoc]
      · rintro ⟨_, ⟨_, shelves, rfl, hshelves, rfl⟩, hd⟩
        refine ⟨shelves, hshelves, ?_⟩
        rw [hd, List.flatten_cons, List.append_assoc]

theorem loadAll_eq_error_iff : loadAll f c paths = .error fault ↔
    FirstBad (fun p => ∃ as, Holds f p as) (fun _ p => Fails f p fault) paths := by
  induction paths generalizing c with
  | nil => simp [loadAll, not_firstBad_nil]
  | cons path paths ih =>
    rw [loadAll, firstBad_cons, ← load_eq_error_iff]
    cases hl : load f path with
    | error e => simp [not_holds hl]
    | ok d => simp [holds_iff hl, ih]

/-! ## Combos that can be written and read back -/

theorem exists_of_mem_right {α β : Type} {R : α → β → Prop} {xs : List α} {ys : List β} {y : β}
    (h : List.Forall₂ R xs ys) (hy : y ∈ ys) : ∃ x ∈ xs, R x y := by
  induction h with
  | nil => cases hy
  | @cons x y' xs ys hxy _ ih =>
    rcases List.mem_cons.mp hy with rfl | hy
    · exact ⟨x, by simp, hxy⟩
    · obtain ⟨x', hx', hR⟩ := ih hy
      exact ⟨x', List.mem_cons_of_mem x hx', hR⟩

/-- The combo of a shortcut that was read can be written and read again. -/
theorem reparsed_of_parse {s : String} {ms : List Motion} (h : parse s = .ok ms) :
    parse (compact ms) = .ok ms := by
  obtain ⟨H, hlegal⟩ := legal_tokenize_of_parse h
  exact parse_compact_of_legal hlegal

theorem Holds.reparsed (h : Holds f path as) (ha : a ∈ as) :
    parse (compact a.combo) = .ok a.combo := by
  obtain ⟨_, es, _, _, hes⟩ := h
  obtain ⟨e, _, hread⟩ := exists_of_mem_right hes ha
  exact reparsed_of_parse hread.combo

theorem reparsed_of_readAll {ds : List (Context × Definition)} (h : readAll ds = .ok as)
    (ha : a ∈ as) : parse (compact a.combo) = .ok a.combo := by
  induction ds generalizing as with
  | nil =>
    cases h
    cases ha
  | cons d ds ih =>
    obtain ⟨context, combo, description⟩ := d
    simp only [readAll] at h
    split at h
    · cases h
    rename_i b hb
    split at h
    · rename_i bs hbs
      cases h
      rcases List.mem_cons.mp ha with rfl | ha
      · have hread : Entry.Reads ⟨context, combo, description⟩ a := read_eq_ok_iff.mp hb
        exact reparsed_of_parse hread.combo
      · exact ih hbs ha
    · cases h

/-- The built-in tables are free of faults. -/
theorem isOk_builtin : Catalog.builtin.isOk = true := by decide +kernel

theorem exists_builtin : ∃ base, Catalog.builtin = .ok base := by
  have hok := isOk_builtin
  cases hb : Catalog.builtin with
  | ok base => exact ⟨base, rfl⟩
  | error e =>
    rw [hb] at hok
    cases hok

theorem reparsed_of_builtin (h : Catalog.builtin = .ok c) (ha : a ∈ c.actions) :
    parse (compact a.combo) = .ok a.combo := by
  rw [Catalog.builtin] at h
  -- The tables are put aside, else they are read again where the cases are compared.
  generalize hread : readAll _ = r at h
  cases r with
  | ok as =>
    cases h
    exact reparsed_of_readAll hread ha
  | error e => cases h

end ChordDrill.Catalog

namespace ChordDrill.Startup

open Catalog Combo

theorem exists_base (builtin : Bool) : ∃ start, base builtin = .ok start ∧
    (builtin = true → Catalog.builtin = .ok start) ∧ (builtin = false → start.actions = []) := by
  cases builtin with
  | false => exact ⟨{}, rfl, by simp, fun _ => rfl⟩
  | true =>
    obtain ⟨start, hstart⟩ := exists_builtin
    exact ⟨start, by simp [base, hstart], fun _ => hstart, by simp⟩

section

variable {s : CatalogSettings} {f : Files} {start c : Catalog} {e : Fault}

theorem catalog_eq_ok_iff (hstart : base s.builtin = .ok start) :
    catalog s f = .ok c ↔ ∃ d, loadAll f start s.files = .ok d ∧
      c = d.retain s.contexts ∧ c.actions ≠ [] := by
  simp only [catalog, hstart]
  cases loadAll f start s.files with
  | error fault => simp
  | ok d =>
    by_cases hnone : (d.retain s.contexts).actions = []
    · simp only [hnone, if_true]
      constructor
      · intro h
        cases h
      · rintro ⟨d, hd, rfl, hsome⟩
        cases hd
        exact absurd hnone hsome
    · simp only [hnone, if_false, Except.ok.injEq]
      constructor
      · rintro rfl
        exact ⟨d, rfl, rfl, hnone⟩
      · rintro ⟨d, rfl, rfl, _⟩
        rfl

theorem catalog_eq_error_iff (hstart : base s.builtin = .ok start) :
    catalog s f = .error e ↔
      (∃ fault, e = .catalog fault ∧ loadAll f start s.files = .error fault) ∨
      e = .noShortcuts ∧ ∃ d, loadAll f start s.files = .ok d ∧
        (d.retain s.contexts).actions = [] := by
  simp only [catalog, hstart]
  cases loadAll f start s.files with
  | error fault => simp [@eq_comm _ e]
  | ok d =>
    by_cases hnone : (d.retain s.contexts).actions = []
    · simp [hnone, @eq_comm _ e]
    · simp [hnone]

end

/-- The catalog at the start is made if every file holds shortcuts and some shortcut is of the
wanted contexts: the built-in ones if they are wanted, then those of the files in order, cut down to
these contexts. Its combos can all be written and read again. Else the fault is that of the first
file that fails, whatever comes behind it, and if none fails that no shortcuts are left. -/
theorem catalog_or_first_fault (s : CatalogSettings) (f : Files) :
    ∃ start, (s.builtin = true → Catalog.builtin = .ok start) ∧
      (s.builtin = false → start.actions = []) ∧
      (∀ c, catalog s f = .ok c ↔ ∃ shelves, List.Forall₂ (Holds f) s.files shelves ∧
        c = Catalog.retain ⟨start.actions ++ shelves.flatten⟩ s.contexts ∧ c.actions ≠ []) ∧
      (∀ c, catalog s f = .ok c → ∀ a ∈ c.actions, parse (compact a.combo) = .ok a.combo) ∧
      ∀ e, catalog s f = .error e ↔
        (∃ fault, e = .catalog fault ∧
          FirstBad (fun p => ∃ as, Holds f p as) (fun _ p => Fails f p fault) s.files) ∨
        e = .noShortcuts ∧ ∃ shelves, List.Forall₂ (Holds f) s.files shelves ∧
          (Catalog.retain ⟨start.actions ++ shelves.flatten⟩ s.contexts).actions = [] := by
  obtain ⟨start, hstart, hbuiltin, hempty⟩ := exists_base s.builtin
  have hall : ∀ shelves, List.Forall₂ (Holds f) s.files shelves →
      loadAll f start s.files = .ok ⟨start.actions ++ shelves.flatten⟩ :=
    fun shelves h => loadAll_eq_ok_iff.mpr ⟨shelves, h, rfl⟩
  have hok : ∀ c, catalog s f = .ok c ↔ ∃ shelves, List.Forall₂ (Holds f) s.files shelves ∧
      c = Catalog.retain ⟨start.actions ++ shelves.flatten⟩ s.contexts ∧ c.actions ≠ [] := by
    intro c
    rw [catalog_eq_ok_iff hstart]
    constructor
    · rintro ⟨d, hd, hc⟩
      obtain ⟨shelves, hshelves, hactions⟩ := loadAll_eq_ok_iff.mp hd
      exact ⟨shelves, hshelves, hactions ▸ hc⟩
    · rintro ⟨shelves, hshelves, hc⟩
      exact ⟨_, hall shelves hshelves, hc⟩
  refine ⟨start, hbuiltin, hempty, hok, fun c hc a ha => ?_, fun e => ?_⟩
  · obtain ⟨shelves, hshelves, rfl, _⟩ := (hok c).mp hc
    rcases List.mem_append.mp (mem_actions_retain.mp ha).1 with ha | ha
    · cases hb : s.builtin with
      | false =>
        rw [hempty hb] at ha
        cases ha
      | true => exact reparsed_of_builtin (hbuiltin hb) ha
    · obtain ⟨shelf, hshelf, ha⟩ := List.mem_flatten.mp ha
      obtain ⟨path, _, hholds⟩ := exists_of_mem_right hshelves hshelf
      exact hholds.reparsed ha
  · rw [catalog_eq_error_iff hstart]
    simp only [loadAll_eq_error_iff]
    refine or_congr_right (and_congr_right fun _ => ?_)
    constructor
    · rintro ⟨d, hd, hnone⟩
      obtain ⟨shelves, hshelves, hactions⟩ := loadAll_eq_ok_iff.mp hd
      exact ⟨shelves, hshelves, hactions ▸ hnone⟩
    · rintro ⟨shelves, hshelves, hnone⟩
      exact ⟨_, hall shelves hshelves, hnone⟩

/-- The shortcut of the good file in `oneGoodFile` that is of the wanted context. -/
def newTab : Action := ⟨["edge"], [.press .ctrl, .press .letterT], "new tab"⟩

/-- The other shortcut of that file. -/
def clearScreen : Action := ⟨["term"], [.press .ctrl, .press .letterL], "clear"⟩

/-- A good file and one whose second record has a mark without a key. -/
def oneGoodFile : Files where
  readText path :=
    if path = "good.json" then
      .ok "[[[\"term\"],\"↓ctrl↓l\",\"clear\"],[[\"edge\"],\"↓ctrl↓t\",\"new tab\"]]"
    else if path = "bad.json" then
      .ok "[[[\"edge\"],\"↓f5\",\"reload\"],[[\"edge\"],\"↓q↑\",\"quit\"],[[],\"↑a\",\"\"]]"
    else .error .notFound
  openLog _ := .ok ()

/-- The good file alone gives a catalog, from which the shortcut of another context is left out;
with more files the second record of the bad one counts. -/
theorem oneGoodFile_catalogs :
    catalog { builtin := false, files := ["good.json"], contexts := ["Edge"] } oneGoodFile =
      .ok ⟨[newTab]⟩ ∧
    parse (compact newTab.combo) = .ok newTab.combo ∧
    catalog { builtin := false, files := ["good.json", "bad.json", "none.toml"] } oneGoodFile =
      .error (.catalog (.entry "bad.json" 1 (.unknownKey []))) := by
  have hload : load oneGoodFile "good.json" = .ok ⟨[clearScreen, newTab]⟩ := by decide +kernel
  have hgood : Holds oneGoodFile "good.json" [clearScreen, newTab] := load_eq_ok_iff.mp hload
  have hentry : load oneGoodFile "bad.json" = .error (.entry "bad.json" 1 (.unknownKey [])) := by
    decide +kernel
  have hbad := load_eq_error_iff.mp hentry
  obtain ⟨start, _, hempty, hok, hreparsed, _⟩ := catalog_or_first_fault
    { builtin := false, files := ["good.json"], contexts := ["Edge"] } oneGoodFile
  have hone := (hok ⟨[newTab]⟩).mpr ⟨[[clearScreen, newTab]], .cons hgood .nil, by
    rw [hempty rfl]
    decide +kernel, by simp⟩
  obtain ⟨_, _, _, _, _, herror⟩ := catalog_or_first_fault
    { builtin := false, files := ["good.json", "bad.json", "none.toml"] } oneGoodFile
  have hfirst : FirstBad (fun p => ∃ as, Holds oneGoodFile p as)
      (fun _ p => Fails oneGoodFile p (.entry "bad.json" 1 (.unknownKey [])))
      ["good.json", "bad.json", "none.toml"] :=
    ⟨["good.json"], "bad.json", ["none.toml"], rfl, by simpa using ⟨_, hgood⟩, hbad⟩
  exact ⟨hone, hreparsed _ hone newTab (by simp), (herror _).mpr (.inl ⟨_, rfl, hfirst⟩)⟩

end ChordDrill.Startup
