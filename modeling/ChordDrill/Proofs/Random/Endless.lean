import Mathlib.Data.Stream.Init
import ChordDrill.Proofs.Random.Distinct

/-!
# ChordDrill.Proofs.Random.Endless

Positions from an endless stream of random words.

* `Recurrent` — everything comes again and again on a stream.
* `Plentiful` — the words of a stream recur, in pairs where a draw takes two of them.
* `Reader`    — a reader of tapes that does not look at more words than it uses, and comes to its
                end on every recurrent stream.

Readers are put together by `Reader.bind`. The first words that suffice decide the positions
(`positions?_append`), and on a plentiful stream some number of words suffices
(`exists_positions?`). A word may be passed over or draw what is chosen already, so a stream without
the words that are needed is read for ever (`below?_of_passed`).
-/

namespace ChordDrill.Random

variable {α β : Type}

/-! ## Streams -/

def Recurrent (as : Stream' α) : Prop := ∀ a m, ∃ k, m ≤ k ∧ as.get k = a

/-- A stream in pairs, each of neighbours at an even place and the next. -/
def inPairs (as : Stream' α) : Stream' (α × α) := fun k => (as.get (2 * k), as.get (2 * k + 1))

/-- Words below a limit, each of which comes again and again. -/
structure RecurrentBelow (limit : Nat) (ws : Stream' Nat) : Prop where
  lt : ∀ k, ws.get k < limit
  recurs : ∀ w < limit, ∀ m, ∃ k, m ≤ k ∧ ws.get k = w

theorem Recurrent.drop {as : Stream' α} (h : Recurrent as) (n : Nat) : Recurrent (as.drop n) := by
  intro a m
  obtain ⟨k, hk, ha⟩ := h a (n + m)
  refine ⟨k - n, by omega, ?_⟩
  rw [Stream'.get_drop, Nat.add_sub_cancel' (by omega), ha]

theorem Recurrent.of_inPairs {as : Stream' α} (h : Recurrent (inPairs as)) : Recurrent as := by
  intro a m
  obtain ⟨k, hk, ha⟩ := h (a, a) m
  exact ⟨2 * k, by omega, congrArg Prod.fst ha⟩

theorem RecurrentBelow.tail {limit : Nat} {ws : Stream' Nat} (h : RecurrentBelow limit ws) :
    RecurrentBelow limit ws.tail := by
  refine ⟨fun k => h.lt (k + 1), fun w hw m => ?_⟩
  obtain ⟨k, hk, hget⟩ := h.recurs w hw (m + 1)
  refine ⟨k - 1, by omega, ?_⟩
  rw [Stream'.get_tail, Nat.sub_add_cancel (by omega), hget]

/-! ## Readers -/

structure Reader (read : Tape → Option (α × Tape)) : Prop where
  append : ∀ {tape rest a} more, read tape = some (a, rest) →
    read (tape ++ more) = some (a, rest ++ more)
  ends : ∀ {words}, Recurrent words → ∃ k a, read (words.take k) = some (a, [])

theorem Reader.pure (a : α) : Reader fun tape => some (a, tape) := by
  refine ⟨?_, fun _ => ⟨0, a, rfl⟩⟩
  intro tape rest b more h
  cases h
  rfl

/-- A reader goes on as another one, which depends on what was read. -/
theorem Reader.bind {first : Tape → Option (α × Tape)} {next : α → Tape → Option (β × Tape)}
    {read : Tape → Option (β × Tape)} (hfirst : Reader first) (hnext : ∀ a, Reader (next a))
    (hnone : ∀ tape, first tape = none → read tape = none)
    (hsome : ∀ tape a rest, first tape = some (a, rest) → read tape = next a rest) :
    Reader read := by
  constructor
  · intro tape rest b more h
    cases hread : first tape with
    | none =>
      rw [hnone tape hread] at h
      cases h
    | some s =>
      rw [hsome tape s.1 s.2 hread] at h
      rw [hsome _ _ _ (hfirst.append more hread)]
      exact (hnext s.1).append more h
  · intro words hwords
    obtain ⟨k, a, hread⟩ := hfirst.ends hwords
    obtain ⟨k', b, hread'⟩ := (hnext a).ends (hwords.drop k)
    refine ⟨k + k', b, ?_⟩
    rw [Stream'.take_add, hsome _ _ _ (hfirst.append _ hread)]
    exact hread'

/-- A stream of words that are all passed over never gives a number. -/
theorem below?_of_passed {span : Nat} {words : Stream' UInt32}
    (hpassed : ∀ k, scaled? wordLimit (zone span) span (words.get k).toNat = none) (n : Nat) :
    below? span (words.take n) = none := by
  induction n generalizing words with
  | zero => rfl
  | succ n ih =>
    have hhead : scaled? wordLimit (zone span) span words.head.toNat = none := hpassed 0
    rw [Stream'.take_succ, below?, hhead]
    exact ih fun k => hpassed (k + 1)

theorem scaled?_zero {limit zone span : Nat} : scaled? limit zone span 0 = some 0 := by
  simp [scaled?]

/-- A word of only zeros stands for the number zero and is never passed over. -/
theorem reader_below? (span : Nat) : Reader (below? span) := by
  constructor
  · intro tape rest n more h
    induction tape with
    | nil => cases h
    | cons word tape ih =>
      rw [List.cons_append, below?]
      rw [below?] at h
      split at h
      · cases h
        rfl
      · exact ih h
  · intro words hwords
    obtain ⟨k, -, hk⟩ := hwords 0 0
    induction k generalizing words with
    | zero =>
      have hhead : words.head = 0 := hk
      refine ⟨1, 0, ?_⟩
      rw [Stream'.take_succ, hhead, below?, show (0 : UInt32).toNat = 0 from rfl, scaled?_zero]
      rfl
    | succ k ih =>
      obtain ⟨n, a, hread⟩ := ih (hwords.drop 1) hk
      cases hscaled : scaled? wordLimit (zone span) span words.head.toNat with
      | none => exact ⟨n + 1, a, by rw [Stream'.take_succ, below?, hscaled]; exact hread⟩
      | some m => exact ⟨1, m, by rw [Stream'.take_succ, below?, hscaled]; rfl⟩

theorem reader_from? (low high : Nat) : Reader (from? low high) :=
  (reader_below? (high - low + 1)).bind (fun n => .pure (low + n))
    (fun tape h => by rw [from?, h]) (fun tape n rest h => by rw [from?, h])

theorem reader_shuffleFrom? (places : Array Nat) (i count : Nat) :
    Reader (shuffleFrom? places i count) := by
  induction count generalizing places i with
  | zero => exact .pure places
  | succ count ih =>
    exact (reader_from? i (places.size - 1)).bind
      (fun j => ih (places.swapIfInBounds i j) (i + 1))
      (fun tape h => by rw [shuffleFrom?, h]) (fun tape j rest h => by rw [shuffleFrom?, h])

theorem reader_shuffleDown? (places : Array Nat) (i : Nat) : Reader (shuffleDown? places i) := by
  induction i generalizing places with
  | zero => exact .pure places
  | succ i ih =>
    exact (reader_from? 0 (i + 1)).bind (fun j => ih (places.swapIfInBounds (i + 1) j))
      (fun tape h => by rw [shuffleDown?, h]) (fun tape j rest h => by rw [shuffleDown?, h])

theorem reader_pickFrom? (pick : List Nat → Nat → Nat → List Nat) (chosen : List Nat)
    (j count : Nat) : Reader (pickFrom? pick chosen j count) := by
  induction count generalizing chosen j with
  | zero => exact .pure chosen
  | succ count ih =>
    exact (reader_from? 0 j).bind (fun t => ih (pick chosen t j) (j + 1))
      (fun tape h => by rw [pickFrom?, h]) (fun tape t rest h => by rw [pickFrom?, h])

theorem reader_shuffled? (n amount : Nat) : Reader (shuffled? n amount) :=
  (reader_shuffleFrom? (Array.range n) 0 amount).bind
    (fun places => .pure (places.toList.take amount))
    (fun tape h => by rw [shuffled?, h]) (fun tape places rest h => by rw [shuffled?, h])

theorem reader_mixed? (chosen : List Nat) : Reader (mixed? chosen) :=
  (reader_shuffleDown? chosen.toArray (chosen.length - 1)).bind
    (fun places => .pure places.toList)
    (fun tape h => by rw [mixed?, h]) (fun tape places rest h => by rw [mixed?, h])

theorem reader_picked? (n amount : Nat) : Reader (picked? n amount) := by
  by_cases hle : amount ≤ orderedLimit
  · have heq : picked? n amount = pickFrom? pickInOrder [] (n - amount) amount := by
      funext tape
      rw [picked?, if_pos hle]
    rw [heq]
    exact reader_pickFrom? pickInOrder [] (n - amount) amount
  · exact (reader_pickFrom? pickAny [] (n - amount) amount).bind reader_mixed?
      (fun tape h => by rw [picked?, if_neg hle, h])
      (fun tape chosen rest h => by rw [picked?, if_neg hle, h])

/-! ## Draws that are made again -/

variable {limit n amount count size : Nat} {chosen words ps : List Nat} {tape : Tape}

theorem redrawFrom?_append (h : redrawFrom? limit n count chosen words = some ps)
    (more : List Nat) : redrawFrom? limit n count chosen (words ++ more) = some ps := by
  induction words generalizing count chosen with
  | nil =>
    cases count with
    | zero => rwa [redrawFrom?_zero] at h ⊢
    | succ count => cases h
  | cons word words ih =>
    cases count with
    | zero => exact h
    | succ count =>
      rw [List.cons_append]
      rcases redrawFrom?_cases limit n count chosen word with ⟨_, heq⟩ | ⟨p, _, _, heq⟩
      · rw [heq] at h ⊢
        exact ih h
      · rw [heq] at h ⊢
        exact ih h

/-- The first multiple from a number on. -/
theorem exists_mul_eq_add (hpos : 0 < n) (m : Nat) : ∃ k rest, rest < n ∧ k * n = m + rest := by
  refine ⟨(m + (n - 1)) / n, n - 1 - (m + (n - 1)) % n, by omega, ?_⟩
  have hdiv := Nat.div_add_mod (m + (n - 1)) n
  have hmod := Nat.mod_lt (m + (n - 1)) hpos
  rw [Nat.mul_comm]
  omega

/-- The first word whose product with `n` reaches `p` units draws `p`: what is left of the product
is less than `n`, and the zone is not. -/
theorem exists_scaled? {p : Nat} (hp : p < n) (hle : n ≤ limit) :
    ∃ word < limit, scaled? limit (fullZone limit n) n word = some p := by
  obtain ⟨word, rest, hrest, hproduct⟩ := exists_mul_eq_add (Nat.zero_lt_of_lt hp) (p * limit)
  have hword : word * n < limit * n := by
    calc word * n
      _ < p * limit + limit := by omega
      _ = (p + 1) * limit := (Nat.succ_mul p limit).symm
      _ ≤ n * limit := Nat.mul_le_mul_right limit hp
      _ = limit * n := Nat.mul_comm n limit
  refine ⟨word, Nat.lt_of_mul_lt_mul_right hword, ?_⟩
  have hmod : word * n % limit = rest := by
    rw [hproduct, Nat.mul_comm, Nat.mul_add_mod, Nat.mod_eq_of_lt (by omega)]
  have hdiv : word * n / limit = p := by
    rw [hproduct, Nat.mul_comm, Nat.mul_add_div (by omega), Nat.div_eq_of_lt (by omega),
      Nat.add_zero]
  have hzone : rest ≤ fullZone limit n := by
    have hlow := Nat.mod_le (limit - n) n
    rw [fullZone]
    omega
  simp only [scaled?, hmod, hdiv, if_pos hzone]

theorem Chosen.exists_fresh (h : Chosen n amount chosen) (hlt : amount < n) :
    ∃ p < n, p ∉ chosen := by
  by_contra hall
  have hsub : List.range n ⊆ chosen := by
    intro p hp
    by_contra hnew
    exact hall ⟨p, List.mem_range.mp hp, hnew⟩
  have hlength := (List.subperm_of_subset List.nodup_range hsub).length_le
  rw [List.length_range, h.length_eq] at hlength
  omega

/-- By induction on the draws still to be made, and for each one on the place of a word that draws
a position not chosen yet, as another one may be drawn before that. -/
theorem exists_redrawFrom? (hle : n ≤ limit) (hcount : amount + count ≤ n)
    (hchosen : Chosen n amount chosen) {ws : Stream' Nat} (hws : RecurrentBelow limit ws) :
    ∃ k ps, redrawFrom? limit n count chosen (ws.take k) = some ps := by
  induction count generalizing amount chosen ws with
  | zero => exact ⟨0, chosen.reverse, rfl⟩
  | succ count ih =>
    have hdrawn : ∀ {ws : Stream' Nat} {p : Nat}, RecurrentBelow limit ws →
        scaled? limit (fullZone limit n) n ws.head = some p → p ∉ chosen →
        (∀ words, redrawFrom? limit n (count + 1) chosen (ws.head :: words) =
          redrawFrom? limit n count (p :: chosen) words) →
        ∃ k ps, redrawFrom? limit n (count + 1) chosen (ws.take k) = some ps := by
      intro ws p hws hp hnew heq
      have hlt : p < n := scaled?_lt (by omega) (hws.lt 0) hp
      obtain ⟨k, ps, hps⟩ := ih (by omega) (hchosen.cons hlt hnew) hws.tail
      refine ⟨k + 1, ps, ?_⟩
      rw [Stream'.take_succ, heq, hps]
    obtain ⟨p, hp, hnew⟩ := hchosen.exists_fresh (by omega)
    obtain ⟨word, hword, hscaled⟩ := exists_scaled? hp hle
    obtain ⟨m, -, hm⟩ := hws.recurs word hword 0
    induction m generalizing ws with
    | zero =>
      have hhead : ws.head = word := hm
      rcases redrawFrom?_cases limit n count chosen ws.head with ⟨hpassed, _⟩ | ⟨q, hq, hnew', heq⟩
      · rw [hhead] at hpassed
        exact absurd (hpassed p hscaled) hnew
      · exact hdrawn hws hq hnew' heq
    | succ m ihm =>
      rcases redrawFrom?_cases limit n count chosen ws.head with ⟨_, heq⟩ | ⟨q, hq, hnew', heq⟩
      · obtain ⟨k, ps, hps⟩ := ihm hws.tail hm
        refine ⟨k + 1, ps, ?_⟩
        rw [Stream'.take_succ, heq, hps]
      · exact hdrawn hws hq hnew' heq

/-- Words behind a tape only add pairs, even if the last word of the tape has no other yet. -/
theorem longWords_append (tape more : Tape) : longWords tape <+: longWords (tape ++ more) := by
  induction tape using longWords.induct with
  | case1 low high tape ih =>
    rw [List.cons_append, List.cons_append, longWords, longWords]
    exact (List.prefix_append_right_inj [_]).mpr ih
  | case2 tape hshort =>
    rw [longWords_of_short hshort]
    exact List.nil_prefix

theorem redrawn?_append (h : redrawn? n amount tape = some ps) (more : Tape) :
    redrawn? n amount (tape ++ more) = some ps := by
  by_cases hn : n < wordLimit
  · rw [redrawn?, if_pos hn] at h ⊢
    rw [List.map_append]
    exact redrawFrom?_append h (more.map UInt32.toNat)
  · rw [redrawn?, if_neg hn] at h ⊢
    obtain ⟨rest, hrest⟩ := longWords_append tape more
    rw [← hrest]
    exact redrawFrom?_append h rest

variable {words : Stream' UInt32}

theorem recurrentBelow_words (hwords : Recurrent words) :
    RecurrentBelow wordLimit (words.map UInt32.toNat) := by
  refine ⟨fun k => (words.get k).toNat_lt, fun w hw m => ?_⟩
  obtain ⟨k, hk, hget⟩ := hwords (UInt32.ofNat w) m
  refine ⟨k, hk, ?_⟩
  rw [Stream'.get_map, hget, UInt32.toNat_ofNat_of_lt' hw]

def longStream (words : Stream' UInt32) : Stream' Nat :=
  (inPairs words).map fun pair => long pair.1 pair.2

theorem longWords_take (words : Stream' UInt32) (k : Nat) :
    longWords (words.take (2 * k)) = (longStream words).take k := by
  induction k generalizing words with
  | zero => rfl
  | succ k ih =>
    have htail : (longStream words).tail = longStream words.tail.tail := rfl
    rw [Nat.mul_succ, Stream'.take_succ, Stream'.take_succ, longWords, ih, Stream'.take_succ, htail]
    rfl

theorem recurrentBelow_longStream (hwords : Recurrent (inPairs words)) :
    RecurrentBelow longLimit (longStream words) := by
  refine ⟨fun k => long_lt _ _, fun w hw m => ?_⟩
  obtain ⟨k, hk, hget⟩ :=
    hwords (UInt32.ofNat (w % wordLimit), UInt32.ofNat (w / wordLimit)) m
  refine ⟨k, hk, ?_⟩
  have hlow : w % wordLimit < wordLimit := Nat.mod_lt w (by decide)
  have hhigh : w / wordLimit < wordLimit := Nat.div_lt_of_lt_mul hw
  rw [longStream, Stream'.get_map, hget, long, UInt32.toNat_ofNat_of_lt' hlow,
    UInt32.toNat_ofNat_of_lt' hhigh]
  exact Nat.mod_add_div w wordLimit

/-- Words that come again and again: single ones, but pairs for a list that is too long for single
words. -/
def Plentiful (n : Nat) (words : Stream' UInt32) : Prop :=
  if n < wordLimit then Recurrent words else Recurrent (inPairs words)

theorem Plentiful.recurrent (h : Plentiful n words) : Recurrent words := by
  unfold Plentiful at h
  split at h
  · exact h
  · exact h.of_inPairs

theorem exists_redrawn? (hwords : Plentiful n words) (hn : n ≤ longLimit) (hle : amount ≤ n) :
    ∃ k ps, redrawn? n amount (words.take k) = some ps := by
  have hcount : 0 + amount ≤ n := by omega
  by_cases hshort : n < wordLimit
  · obtain ⟨k, ps, h⟩ := exists_redrawFrom? (Nat.le_of_lt hshort) hcount Chosen.nil
      (recurrentBelow_words hwords.recurrent)
    refine ⟨k, ps, ?_⟩
    rw [redrawn?, if_pos hshort, Stream'.map_take]
    exact h
  · rw [Plentiful, if_neg hshort] at hwords
    obtain ⟨k, ps, h⟩ := exists_redrawFrom? hn hcount Chosen.nil (recurrentBelow_longStream hwords)
    refine ⟨2 * k, ps, ?_⟩
    rw [redrawn?, if_neg hshort, longWords_take]
    exact h

/-! ## Positions -/

theorem positions?_append (h : positions? n size tape = some ps) (more : Tape) :
    positions? n size (tape ++ more) = some ps := by
  rw [positions?] at h ⊢
  cases hway : Way.suiting n (min size n) with
  | shuffle =>
    rw [hway] at h
    obtain ⟨s, hs, rfl⟩ := Option.map_eq_some_iff.mp h
    rw [Way.choose?, (reader_shuffled? n _).append more hs]
    rfl
  | pick =>
    rw [hway] at h
    obtain ⟨s, hs, rfl⟩ := Option.map_eq_some_iff.mp h
    rw [Way.choose?, (reader_picked? n _).append more hs]
    rfl
  | redraw =>
    rw [hway] at h
    exact redrawn?_append h more

theorem exists_positions? (hwords : Plentiful n words) (hn : n ≤ longLimit) :
    ∃ k ps, positions? n size (words.take k) = some ps := by
  simp only [positions?]
  cases Way.suiting n (min size n) with
  | shuffle =>
    obtain ⟨k, ps, h⟩ := (reader_shuffled? n (min size n)).ends hwords.recurrent
    exact ⟨k, ps, by rw [Way.choose?, h, Option.map_some]⟩
  | pick =>
    obtain ⟨k, ps, h⟩ := (reader_picked? n (min size n)).ends hwords.recurrent
    exact ⟨k, ps, by rw [Way.choose?, h, Option.map_some]⟩
  | redraw => exact exists_redrawn? hwords hn (Nat.min_le_right size n)

end ChordDrill.Random
