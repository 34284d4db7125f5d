import ChordDrill.Proofs.Device.Opening

/-!
# ChordDrill.Proofs.Device.Report

The availability report against opening the keyboards.

* `Agrees` — the report tells how opening turns out.
* `denied` — the keyboards that deny permission.

The report looks for keyboards and opens none of them. So it knows whether there are any, but those
that deny permission are counted with the others (`status_of_opened`), and it never speaks of
permission.
-/

namespace ChordDrill.Device

/-- The report tells how opening turns out: which fault there is, or how many keyboards open. -/
structure Agrees (nodes : List Node) : Prop where
  noDevices : status (.listed nodes) = faultReport .noDevices ↔
    openAll (.listed nodes) = .error .noDevices
  permissionDenied : status (.listed nodes) = faultReport .permissionDenied ↔
    openAll (.listed nodes) = .error .permissionDenied
  opened : ∀ found, openAll (.listed nodes) = .ok found →
    status (.listed nodes) = countReport found.length

/-- The number of keyboards that deny permission. -/
def denied (nodes : List Node) : Nat := nodes.countP fun n => n.Passes ∧ n.opening = .denied

variable {nodes found : List Node}

/-! ## Texts -/

theorem countReport_inj {m n : Nat} : countReport m = countReport n ↔ m = n := by
  refine ⟨fun heq => ?_, congrArg countReport⟩
  rw [countReport, countReport, String.append_left_inj, Nat.toString_eq_repr,
    Nat.toString_eq_repr, ← String.toList_inj, Nat.toList_repr, Nat.toList_repr] at heq
  calc
    m = Nat.ofDigitChars 10 (Nat.toDigits 10 m) 0 := Nat.ofDigitChars_ten_toDigits.symm
    _ = Nat.ofDigitChars 10 (Nat.toDigits 10 n) 0 := by rw [heq]
    _ = n := Nat.ofDigitChars_ten_toDigits

/-- A report of a number begins with a digit. -/
theorem countReport_ne {text : String} {c : Char} {cs : List Char} (htext : text.toList = c :: cs)
    (hc : c.isDigit = false) (n : Nat) : countReport n ≠ text := by
  intro heq
  obtain ⟨d, ds, hdigits⟩ := List.exists_cons_of_ne_nil (Nat.toDigits_ne_nil (n := n) (b := 10))
  have hd : d.isDigit = true :=
    Nat.isDigit_of_mem_toDigits (by decide) (by decide) (hdigits ▸ List.mem_cons_self)
  rw [countReport, Nat.toString_eq_repr] at heq
  rw [← heq, String.toList_append, Nat.toList_repr, hdigits, List.cons_append] at htext
  cases htext
  rw [hd] at hc
  cases hc

theorem status_listed (nodes : List Node) : status (.listed nodes) =
    if nodes.countP (fun n => n.Passes) = 0 then faultReport .noDevices
    else countReport (nodes.countP fun n => n.Passes) := by
  rw [status, keyboards_listed, List.countP_eq_length_filter]
  cases nodes.filter fun n => n.Passes with
  | nil => rfl
  | cons n found => rfl

theorem status_eq_noDevices_iff :
    status (.listed nodes) = faultReport .noDevices ↔ ∀ n ∈ nodes, ¬ n.Passes := by
  have hnone : nodes.countP (fun n => n.Passes) = 0 ↔ ∀ n ∈ nodes, ¬ n.Passes := by
    rw [List.countP_eq_zero]
    simp only [decide_eq_true_eq]
  rw [status_listed, ← hnone]
  split
  · rename_i hzero
    exact iff_of_true rfl hzero
  · rename_i hsome
    exact iff_of_false (countReport_ne rfl (by decide) _) hsome

/-- The report never speaks of permission. -/
theorem status_ne_permissionDenied : status (.listed nodes) ≠ faultReport .permissionDenied := by
  rw [status_listed]
  split
  · decide
  · exact countReport_ne rfl (by decide) _

/-! ## Opening -/

theorem countP_passes (hfails : ∀ n ∈ nodes, n.Passes → ∀ e, n.opening ≠ .failed e) :
    nodes.countP (fun n => n.Passes) =
      (nodes.filter fun n => n.Passes ∧ n.opening.opens).length + denied nodes := by
  induction nodes with
  | nil => rfl
  | cons n nodes ih =>
    obtain ⟨hn, hnodes⟩ := List.forall_mem_cons.mp hfails
    have ih := ih hnodes
    rw [denied] at ih ⊢
    by_cases hpasses : n.Passes
    · cases hopening : n.opening with
      | ready => simp [hpasses, hopening, Opening.opens, ih]; omega
      | unreadable => simp [hpasses, hopening, Opening.opens, ih]; omega
      | denied => simp [hpasses, hopening, Opening.opens, ih]; omega
      | failed e => exact absurd hopening (hn hpasses e)
    · simp [hpasses, ih]

/-- The keyboards that deny permission are counted with those that open. -/
theorem status_of_opened (hopen : openAll (.listed nodes) = .ok found) :
    status (.listed nodes) = countReport (found.length + denied nodes) := by
  have houtcome := outcome_openAll nodes
  rw [hopen] at houtcome
  cases houtcome with
  | opened hfails hne hfound =>
    have hcount := countP_passes hfails
    rw [← hfound.length_eq] at hcount
    have hpos := List.length_pos_iff.mpr hne
    rw [status_listed, hcount, if_neg (by omega)]

theorem noDevices_iff : openAll (.listed nodes) = .error .noDevices ↔ ∀ n ∈ nodes, ¬ n.Passes := by
  constructor
  · intro hopen
    have houtcome := outcome_openAll nodes
    rw [hopen] at houtcome
    cases houtcome with
    | noDevices hnone => exact hnone
  · exact (outcome_openAll nodes).noDevices_of_none

theorem denied_eq_zero_iff : denied nodes = 0 ↔ ∀ n ∈ nodes, n.Passes → n.opening ≠ .denied := by
  rw [denied, List.countP_eq_zero]
  simp only [decide_eq_true_eq, not_and]

/-- Where no keyboard fails for another reason than permission, the report tells apart whether there
are keyboards, and counts those that open and those that deny permission. So it agrees with opening
just if none of them denies permission. -/
theorem report_agrees_iff (hfails : ∀ n ∈ nodes, n.Passes → ∀ e, n.opening ≠ .failed e) :
    (status (.listed nodes) = faultReport .noDevices ↔
      openAll (.listed nodes) = .error .noDevices) ∧
    (∀ found, openAll (.listed nodes) = .ok found →
      status (.listed nodes) = countReport (found.length + denied nodes)) ∧
    (Agrees nodes ↔ ∀ n ∈ nodes, n.Passes → n.opening ≠ .denied) := by
  have hnone : status (.listed nodes) = faultReport .noDevices ↔
      openAll (.listed nodes) = .error .noDevices :=
    status_eq_noDevices_iff.trans noDevices_iff.symm
  refine ⟨hnone, fun found => status_of_opened, ?_⟩
  have houtcome := outcome_openAll nodes
  constructor
  · rintro ⟨-, hpermission, hopened⟩
    cases hopen : openAll (.listed nodes) with
    | ok found =>
      have hcount := (hopened found hopen).symm.trans (status_of_opened hopen)
      rw [countReport_inj] at hcount
      exact denied_eq_zero_iff.mp (by omega)
    | error fault =>
      rw [hopen] at houtcome
      cases houtcome with
      | noDevices hnone => exact fun n hn hpasses => absurd hpasses (hnone n hn)
      | unopenable hn hpasses hfailed => exact absurd hfailed (hfails _ hn hpasses _)
      | permissionDenied hn hpasses hall =>
        exact absurd (hpermission.mpr hopen) status_ne_permissionDenied
  · intro hready
    refine ⟨hnone, ⟨fun hstatus => absurd hstatus status_ne_permissionDenied, fun hopen => ?_⟩,
      fun found hopen => ?_⟩
    · rw [hopen] at houtcome
      cases houtcome with
      | permissionDenied hn hpasses hall => exact absurd (hall _ hn hpasses) (hready _ hn hpasses)
    · rw [status_of_opened hopen, denied_eq_zero_iff.mpr hready, Nat.add_zero]

/-- A keyboard that opens, another one whose reads fail, and a mouse that denies permission. -/
theorem report_agrees_beside_mouse :
    let nodes : List Node :=
      [{ name := "event0", label := some (.text "AT KBD") },
       { name := "event1", opening := .unreadable, label := some (.text "USB Keyboard") },
       { name := "event2", opening := .denied, label := some (.text "Mouse") }]
    (∀ n ∈ nodes, n.Passes → ∀ e, n.opening ≠ .failed e) ∧ Agrees nodes := by
  intro nodes
  have hfails : ∀ n ∈ nodes, n.Passes → ∀ e, n.opening ≠ .failed e := by
    intro n hn _ e
    simp only [nodes, List.mem_cons, List.not_mem_nil, or_false] at hn
    rcases hn with rfl | rfl | rfl <;> nofun
  exact ⟨hfails, (report_agrees_iff hfails).2.2.mpr (by decide +kernel)⟩

/-- A keyboard that denies permission is reported like one that listens: alone it is found where
nothing opens, and beside another one both are found where one opens. -/
theorem denied_keyboard_found :
    let closed : Node := { name := "event0", opening := .denied, label := some (.text "keyboard") }
    let other : Node := { name := "event1", label := some (.text "keyboard") }
    (openAll (.listed [closed]) = .error .permissionDenied ∧
      status (.listed [closed]) = "1 keyboard device(s) found" ∧ ¬ Agrees [closed]) ∧
    (openAll (.listed [closed, other]) = .ok [other] ∧
      status (.listed [closed, other]) = "2 keyboard device(s) found" ∧
      ¬ Agrees [closed, other]) := by
  intro closed other
  have halone : openAll (.listed [closed]) = .error .permissionDenied := by decide +kernel
  have hboth : openAll (.listed [closed, other]) = .ok [other] := by decide +kernel
  refine ⟨⟨halone, by decide +kernel, fun hagrees => ?_⟩,
    ⟨hboth, by decide +kernel, fun hagrees => ?_⟩⟩
  · exact status_ne_permissionDenied (hagrees.permissionDenied.mpr halone)
  · have hcount := hagrees.opened _ hboth
    revert hcount
    decide +kernel

end ChordDrill.Device
