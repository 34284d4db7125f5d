import Mathlib.Data.List.Perm.Basic
import ChordDrill.Proofs.Device.KeyboardTest

/-!
# ChordDrill.Proofs.Device.Opening

Opening the keyboards of the input directory, in whatever order it lists its nodes.

* `Outcome`  — how opening turns out, told from the nodes that there are.
* `SameKind` — two outcomes of one kind; if keyboards opened, they are the same ones.

The nodes are walked in the order of the directory, and the walk may end early. Yet an outcome
speaks only of what is among the nodes (`Outcome.of_perm`), and all outcomes of the same nodes are
of one kind (`Outcome.sameKind`). In another order only another fault of the same kind can come
first.
-/

namespace ChordDrill.Device

def Opening.opens : Opening → Bool
  | .ready | .unreadable => true
  | .denied | .failed _ => false

/-- How opening the keyboards among some nodes turns out. -/
inductive Outcome (nodes : List Node) : Except Fault (List Node) → Prop where
  | noDevices : (∀ n ∈ nodes, ¬ n.Passes) → Outcome nodes (.error .noDevices)
  | unopenable {n : Node} {e : FileFault} : n ∈ nodes → n.Passes → n.opening = .failed e →
      Outcome nodes (.error (.unopenable e))
  | permissionDenied {n : Node} : n ∈ nodes → n.Passes →
      (∀ n ∈ nodes, n.Passes → n.opening = .denied) → Outcome nodes (.error .permissionDenied)
  /-- Some keyboards opened, and the others deny permission. -/
  | opened {found : List Node} : (∀ n ∈ nodes, n.Passes → ∀ e, n.opening ≠ .failed e) →
      found ≠ [] → found.Perm (nodes.filter fun n => n.Passes ∧ n.opening.opens) →
      Outcome nodes (.ok found)

/-- Two outcomes of one kind. -/
inductive SameKind : Except Fault (List Node) → Except Fault (List Node) → Prop where
  | noInputDirectory : SameKind (.error .noInputDirectory) (.error .noInputDirectory)
  | noDevices : SameKind (.error .noDevices) (.error .noDevices)
  | permissionDenied : SameKind (.error .permissionDenied) (.error .permissionDenied)
  | unopenable (e e' : FileFault) :
      SameKind (.error (.unopenable e)) (.error (.unopenable e'))
  | opened {found found' : List Node} : found.Perm found' → SameKind (.ok found) (.ok found')

variable {nodes listed found : List Node} {fault : Fault}
variable {result result' : Except Fault (List Node)}

/-! ## One node after the other -/

theorem openEach_of_ok (h : openEach nodes = .ok found) :
    (∀ n ∈ nodes, ∀ e, n.opening ≠ .failed e) ∧ found = nodes.filter (·.opening.opens) := by
  induction nodes generalizing found with
  | nil =>
    cases h
    exact ⟨by simp, rfl⟩
  | cons n nodes ih =>
    unfold openEach at h
    split at h
    · rename_i hn
      obtain ⟨hnone, rfl⟩ := ih h
      exact ⟨by simpa [hn] using hnone, by simp [hn, Opening.opens]⟩
    · cases h
    all_goals
      rename_i hn
      split at h
      · rename_i rest hrest
        cases h
        obtain ⟨hnone, rfl⟩ := ih hrest
        exact ⟨by simpa [hn] using hnone, by simp [hn, Opening.opens]⟩
      · cases h

theorem openEach_of_error (h : openEach nodes = .error fault) :
    ∃ n ∈ nodes, ∃ e, n.opening = .failed e ∧ fault = .unopenable e := by
  induction nodes with
  | nil => cases h
  | cons n nodes ih =>
    have hrest : openEach nodes = .error fault → ∃ m ∈ n :: nodes, ∃ e, m.opening = .failed e ∧
        fault = .unopenable e := by
      intro h
      obtain ⟨m, hm, hfails⟩ := ih h
      exact ⟨m, List.mem_cons_of_mem n hm, hfails⟩
    unfold openEach at h
    split at h
    · exact hrest h
    · rename_i e hn
      cases h
      exact ⟨n, List.mem_cons_self, e, hn, rfl⟩
    all_goals
      split at h
      · cases h
      · rename_i he
        cases h
        exact hrest he

/-! ## The keyboards of a directory -/

theorem keyboards_listed (nodes : List Node) : keyboards (.listed nodes) =
    if nodes.filter (fun n => n.Passes) = [] then .error .noDevices
    else .ok (nodes.filter fun n => n.Passes) := by
  have hfilter : nodes.filter (fun n => n.name.startsWith "event" && n.isKeyboard) =
      nodes.filter fun n => n.Passes :=
    List.filter_congr fun n _ => Bool.eq_iff_iff.mpr ((passes_iff n).trans decide_eq_true_iff.symm)
  unfold keyboards
  dsimp only
  rw [hfilter]
  cases nodes.filter fun n => n.Passes with
  | nil => rfl
  | cons n found => rfl

theorem denied_of_not_opens {o : Opening} (h : o.opens = false) (hfails : ∀ e, o ≠ .failed e) :
    o = .denied := by
  cases o with
  | denied => rfl
  | failed e => exact absurd rfl (hfails e)
  | ready => cases h
  | unreadable => cases h

theorem outcome_openAll (nodes : List Node) : Outcome nodes (openAll (.listed nodes)) := by
  have hmem : ∀ {n}, n ∈ nodes.filter (fun n => n.Passes) ↔ n ∈ nodes ∧ n.Passes := by simp
  rw [openAll, keyboards_listed]
  by_cases hnone : nodes.filter (fun n => n.Passes) = []
  · rw [if_pos hnone]
    exact .noDevices (by simpa using hnone)
  · rw [if_neg hnone]
    obtain ⟨n, hn⟩ := List.exists_mem_of_ne_nil _ hnone
    dsimp only
    cases hopen : openEach (nodes.filter fun n => n.Passes) with
    | error fault =>
      obtain ⟨n, hn, e, hfails, rfl⟩ := openEach_of_error hopen
      exact .unopenable (hmem.mp hn).1 (hmem.mp hn).2 hfails
    | ok found =>
      obtain ⟨hfails, hfound⟩ := openEach_of_ok hopen
      cases found with
      | nil =>
        refine .permissionDenied (hmem.mp hn).1 (hmem.mp hn).2 fun m hm hpasses => ?_
        have hm' := hmem.mpr ⟨hm, hpasses⟩
        have hclosed := List.filter_eq_nil_iff.mp hfound.symm m hm'
        exact denied_of_not_opens (Bool.eq_false_iff.mpr hclosed) (hfails m hm')
      | cons m found =>
        refine .opened (fun m hm hpasses => hfails m (hmem.mpr ⟨hm, hpasses⟩)) (by simp) ?_
        rw [hfound, List.filter_filter]
        refine List.Perm.of_eq (List.filter_congr fun m _ => ?_)
        rw [Bool.and_comm, Bool.decide_and, Bool.decide_eq_true]

/-! ## Other orders -/

theorem Outcome.of_perm (hperm : listed.Perm nodes) (h : Outcome listed result) :
    Outcome nodes result := by
  cases h with
  | noDevices hnone => exact .noDevices fun n hn => hnone n (hperm.mem_iff.mpr hn)
  | unopenable hn hpasses hfails => exact .unopenable (hperm.mem_iff.mp hn) hpasses hfails
  | permissionDenied hn hpasses hall =>
    exact .permissionDenied (hperm.mem_iff.mp hn) hpasses fun m hm => hall m (hperm.mem_iff.mpr hm)
  | opened hfails hne hfound =>
    exact .opened (fun m hm => hfails m (hperm.mem_iff.mpr hm)) hne (hfound.trans (hperm.filter _))

namespace Outcome

theorem noDevices_of_none (h : Outcome nodes result) (hnone : ∀ n ∈ nodes, ¬ n.Passes) :
    result = .error .noDevices := by
  cases h with
  | noDevices _ => rfl
  | unopenable hn hpasses _ => exact absurd hpasses (hnone _ hn)
  | permissionDenied hn hpasses _ => exact absurd hpasses (hnone _ hn)
  | opened _ hne hfound =>
    obtain ⟨n, hn⟩ := List.exists_mem_of_ne_nil _ hne
    have hopens := List.mem_filter.mp (hfound.mem_iff.mp hn)
    exact absurd (of_decide_eq_true hopens.2).1 (hnone n hopens.1)

theorem unopenable_of_fails (h : Outcome nodes result) {n : Node} {e : FileFault} (hn : n ∈ nodes)
    (hpasses : n.Passes) (hfails : n.opening = .failed e) :
    ∃ e', result = .error (.unopenable e') := by
  cases h with
  | noDevices hnone => exact absurd hpasses (hnone n hn)
  | @unopenable _ e' _ _ _ => exact ⟨e', rfl⟩
  | permissionDenied _ _ hall =>
    rw [hall n hn hpasses] at hfails
    cases hfails
  | opened hnone _ _ => exact absurd hfails (hnone n hn hpasses e)

theorem permissionDenied_of_all (h : Outcome nodes result) {n : Node} (hn : n ∈ nodes)
    (hpasses : n.Passes) (hall : ∀ n ∈ nodes, n.Passes → n.opening = .denied) :
    result = .error .permissionDenied := by
  cases h with
  | noDevices hnone => exact absurd hpasses (hnone n hn)
  | unopenable hm hmpasses hfails =>
    rw [hall _ hm hmpasses] at hfails
    cases hfails
  | permissionDenied _ _ _ => rfl
  | opened _ hne hfound =>
    obtain ⟨m, hm⟩ := List.exists_mem_of_ne_nil _ hne
    have hopens := List.mem_filter.mp (hfound.mem_iff.mp hm)
    obtain ⟨hmpasses, hmopens⟩ := of_decide_eq_true hopens.2
    rw [hall m hopens.1 hmpasses] at hmopens
    cases hmopens

theorem sameKind (h : Outcome nodes result) (h' : Outcome nodes result') :
    SameKind result result' := by
  cases h with
  | noDevices hnone =>
    rw [h'.noDevices_of_none hnone]
    exact .noDevices
  | unopenable hn hpasses hfails =>
    obtain ⟨e', rfl⟩ := h'.unopenable_of_fails hn hpasses hfails
    exact .unopenable _ e'
  | permissionDenied hn hpasses hall =>
    rw [h'.permissionDenied_of_all hn hpasses hall]
    exact .permissionDenied
  | @opened found hnone hne hfound =>
    have h : Outcome nodes (.ok found) := .opened hnone hne hfound
    cases h' with
    | noDevices hnone => cases h.noDevices_of_none hnone
    | unopenable hn hpasses hfails =>
      obtain ⟨e', he'⟩ := h.unopenable_of_fails hn hpasses hfails
      cases he'
    | permissionDenied hn hpasses hall => cases h.permissionDenied_of_all hn hpasses hall
    | opened _ _ hfound' => exact .opened (hfound.trans hfound'.symm)

end Outcome

/-- Whatever the order in which the directory lists its nodes, opening the keyboards among them
turns out as the nodes say, and in one kind of way. A node is a keyboard by its capabilities alone
where these can be read, and by its name elsewhere. -/
theorem opening_ignores_order (nodes : List Node) :
    openAll .missing = .error .noInputDirectory ∧
    (∀ n : Node, n.isKeyboard = true ↔ n.Keyboard) ∧
    ∀ listed : List Node, listed.Perm nodes →
      Outcome nodes (openAll (.listed listed)) ∧
      SameKind (openAll (.listed listed)) (openAll (.listed nodes)) := by
  refine ⟨rfl, isKeyboard_iff, fun listed hperm => ?_⟩
  have hlisted := (outcome_openAll listed).of_perm hperm
  exact ⟨hlisted, hlisted.sameKind (outcome_openAll nodes)⟩

/-- A keyboard that denies permission, a node with few capabilities whose name would make it one, a
keyboard by its name, and a node for no events. -/
def mixedNodes : List Node :=
  [{ name := "event3", opening := .denied
     capabilities := some (.text "ffffffffffffffff 0x1") },
   { name := "event1", opening := .failed .notFound
     capabilities := some (.text "7 f"), label := some (.text "A Keyboard") },
   { name := "event0", label := some (.text "AT KBD") },
   { name := "mouse0", opening := .failed .notFound
     capabilities := some (.text "ffffffffffffffff") }]

/-- Only the keyboard by its name opens, also from the other end of the directory. -/
theorem mixedNodes_open_backwards :
    mixedNodes.reverse.Perm mixedNodes ∧
    openAll (.listed mixedNodes.reverse) =
      .ok [{ name := "event0", label := some (.text "AT KBD") }] ∧
    Outcome mixedNodes (openAll (.listed mixedNodes.reverse)) ∧
    SameKind (openAll (.listed mixedNodes.reverse)) (openAll (.listed mixedNodes)) := by
  have hperm := List.reverse_perm mixedNodes
  exact ⟨hperm, by decide +kernel, (opening_ignores_order mixedNodes).2.2 _ hperm⟩

end ChordDrill.Device
