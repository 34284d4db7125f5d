import Mathlib.Data.List.Indexes
import Mathlib.Data.List.Range
import ChordDrill.Device.Listener

/-!
# ChordDrill.Proofs.Device.Polling

What a poll makes of the bytes that have arrived.

* `Record.whole`       — the records at the offsets 0, 24, 48, … of a run of bytes.
* `keyEdges`           — the edges of those among them that are about keys.
* `Listener.Drained`   — nothing is left to read on any device.
* `Listener.found`     — the edges of the bytes that arrive at several devices.

Each read but the last one of a device ends between two records, so taking the records of one read
after the other is taking those of all bytes (`edges_eq_keyEdges`). The buffer shows a read just
what the read has written (`Buffer.take_put`). From a drained listener one poll gives the motions of
the new bytes and leaves the listener drained (`Drained.poll`), and so do several
(`Drained.pollAll`).
-/

namespace ChordDrill.Device

/-! ## Records by their offsets -/

namespace Record

/-- A byte by its place; there are only zeros behind the last one. -/
def byteAt (bs : List UInt8) (i : Nat) : Nat := (bs.getD i 0).toNat

/-- The record that begins at an offset. Behind sixteen bytes of time its numbers stand with the
least significant byte first. -/
def ofOffset (bs : List UInt8) (offset : Nat) : Record where
  kind := .ofNat (byteAt bs (offset + 16) + 0x100 * byteAt bs (offset + 17))
  code := .ofNat (byteAt bs (offset + 18) + 0x100 * byteAt bs (offset + 19))
  value := .ofNat (byteAt bs (offset + 20) + 0x100 * byteAt bs (offset + 21) +
    0x10000 * byteAt bs (offset + 22) + 0x1000000 * byteAt bs (offset + 23))

def whole (bs : List UInt8) : List Record :=
  (List.range (bs.length / 24)).map fun i => ofOffset bs (24 * i)

variable {bs xs ys : List UInt8}

theorem byteAt_drop (bs : List UInt8) (n i : Nat) : byteAt (bs.drop n) i = byteAt bs (n + i) := by
  rw [byteAt, List.getD_eq_getElem?_getD, List.getElem?_drop, ← List.getD_eq_getElem?_getD, byteAt]

theorem byteAt_append {i : Nat} (h : i < xs.length) : byteAt (xs ++ ys) i = byteAt xs i := by
  rw [byteAt, byteAt, List.getD_eq_getElem?_getD, List.getElem?_append_left h,
    ← List.getD_eq_getElem?_getD]

theorem ofOffset_drop (bs : List UInt8) (n offset : Nat) :
    ofOffset (bs.drop n) offset = ofOffset bs (n + offset) := by
  simp only [ofOffset, byteAt_drop, Nat.add_assoc]

theorem ofOffset_append (h : 24 ≤ xs.length) : ofOffset (xs ++ ys) 0 = ofOffset xs 0 := by
  have hbyte : ∀ i < 24, byteAt (xs ++ ys) i = byteAt xs i := fun i hi =>
    byteAt_append (Nat.lt_of_lt_of_le hi h)
  simp only [ofOffset, Nat.zero_add]
  rw [hbyte 16, hbyte 17, hbyte 18, hbyte 19, hbyte 20, hbyte 21, hbyte 22, hbyte 23] <;> decide

theorem littleEndian_two (a b : UInt8) : littleEndian [a, b] = a.toNat + 0x100 * b.toNat := rfl

theorem littleEndian_four (a b c d : UInt8) : littleEndian [a, b, c, d] =
    a.toNat + 0x100 * b.toNat + 0x10000 * c.toNat + 0x1000000 * d.toNat := by
  simp only [littleEndian, List.foldr_cons, List.foldr_nil]
  omega

theorem ofBytes?_eq (h : 24 ≤ bs.length) : ofBytes? bs = some (ofOffset bs 0) := by
  have hlen : 8 ≤ (bs.drop 16).length := by
    rw [List.length_drop]
    omega
  have hbyte : ∀ i, byteAt bs (16 + i) = byteAt (bs.drop 16) i :=
    fun i => (byteAt_drop bs 16 i).symm
  have hoffset : ofOffset bs 0 = {
      kind := .ofNat (byteAt (bs.drop 16) 0 + 0x100 * byteAt (bs.drop 16) 1)
      code := .ofNat (byteAt (bs.drop 16) 2 + 0x100 * byteAt (bs.drop 16) 3)
      value := .ofNat (byteAt (bs.drop 16) 4 + 0x100 * byteAt (bs.drop 16) 5 +
        0x10000 * byteAt (bs.drop 16) 6 + 0x1000000 * byteAt (bs.drop 16) 7) } := by
    simp only [ofOffset, ← hbyte]
  rw [hoffset, ofBytes?]
  generalize bs.drop 16 = cs at hlen ⊢
  iterate 8
    rcases cs with _ | ⟨_, cs⟩
    · simp at hlen
  simp only [littleEndian_two, littleEndian_four]
  rfl

theorem decodeAll_of_lt (h : bs.length < recordSize) : decodeAll bs = [] := by
  rw [decodeAll, if_pos h]

theorem decodeAll_nil : decodeAll [] = [] := decodeAll_of_lt (Nat.zero_lt_succ 23)

theorem decodeAll_of_le (h : recordSize ≤ bs.length) :
    decodeAll bs = ofOffset bs 0 :: decodeAll (bs.drop recordSize) := by
  rw [decodeAll, if_neg (Nat.not_lt.mpr h), ofBytes?_eq h]
  rfl

/-- By induction on the number of whole records. -/
theorem decodeAll_eq_whole (bs : List UInt8) : decodeAll bs = whole bs := by
  induction hn : bs.length / 24 generalizing bs with
  | zero =>
    have hlt : bs.length < recordSize := by
      rw [recordSize]
      omega
    rw [decodeAll_of_lt hlt, whole, hn]
    rfl
  | succ n ih =>
    have hle : recordSize ≤ bs.length := by
      rw [recordSize]
      omega
    have hrest : (bs.drop recordSize).length / 24 = n := by
      rw [List.length_drop, recordSize]
      omega
    rw [decodeAll_of_le hle, ih _ hrest, whole, whole, hrest, hn, List.range_succ_eq_map,
      List.map_cons, List.map_map, Nat.mul_zero]
    congr 1
    refine List.map_congr_left fun i _ => ?_
    rw [ofOffset_drop, Function.comp_apply, Nat.mul_succ, Nat.add_comm, recordSize]

/-- Behind whole records the next ones are taken as on their own. -/
theorem decodeAll_append (h : recordSize ∣ xs.length) :
    decodeAll (xs ++ ys) = decodeAll xs ++ decodeAll ys := by
  obtain ⟨n, hn⟩ := h
  induction n generalizing xs with
  | zero =>
    have hnil : xs = [] := List.length_eq_zero_iff.mp (by omega)
    rw [hnil, List.nil_append, decodeAll_nil, List.nil_append]
  | succ n ih =>
    have hle : recordSize ≤ xs.length := by
      rw [hn]
      exact Nat.le_mul_of_pos_right _ (Nat.succ_pos n)
    have hrest : (xs.drop recordSize).length = recordSize * n := by
      rw [List.length_drop, hn, Nat.mul_succ, Nat.add_sub_cancel]
    have hle' : recordSize ≤ (xs ++ ys).length := by
      rw [List.length_append]
      omega
    rw [decodeAll_of_le hle', decodeAll_of_le hle, ofOffset_append hle,
      List.drop_append_of_le_length hle, ih hrest, List.cons_append]

end Record

/-! ## Edges of the bytes of one device -/

/-- The edges of the whole records about keys, which are of kind 1. -/
def keyEdges (bs : List UInt8) : List Edge :=
  ((Record.whole bs).filter fun r => r.kind = 1).map fun r => ⟨r.code, r.value⟩

section

variable {bs xs ys : List UInt8}

theorem edgesOfRead_eq (bs : List UInt8) : Held.edgesOfRead bs = keyEdges bs := by
  simp only [Held.edgesOfRead, keyEdges, Record.decodeAll_eq_whole, keyKind]
  induction Record.whole bs with
  | nil => rfl
  | cons r rs ih =>
    by_cases hk : r.kind = 1
    · simp [hk, ih]
    · simp [hk, ih]

theorem keyEdges_of_lt (h : bs.length < recordSize) : keyEdges bs = [] := by
  rw [← edgesOfRead_eq, Held.edgesOfRead, Record.decodeAll_of_lt h]
  rfl

theorem keyEdges_nil : keyEdges [] = [] := keyEdges_of_lt (Nat.zero_lt_succ 23)

theorem keyEdges_append (h : recordSize ∣ xs.length) :
    keyEdges (xs ++ ys) = keyEdges xs ++ keyEdges ys := by
  simp only [← edgesOfRead_eq, Held.edgesOfRead]
  rw [Record.decodeAll_append h, List.filterMap_append]

/-- The reads of a device find the records of all its bytes: a read that is not the last one is
full, and the buffer has room for whole records only. -/
theorem edges_eq_keyEdges (bs : List UInt8) : Held.edges bs = keyEdges bs := by
  induction hn : bs.length using Nat.strongRecOn generalizing bs with
  | ind n ih =>
    rw [Held.edges, reads]
    by_cases hlt : bs.length < recordSize
    · rw [if_pos hlt, keyEdges_of_lt hlt]
      rfl
    · have hless : (bs.drop readSize).length < n := by
        rw [List.length_drop]
        rw [readSize, recordSize] at *
        omega
      have hrest : (reads (bs.drop readSize)).flatMap Held.edgesOfRead =
          keyEdges (bs.drop readSize) := ih _ hless _ rfl
      rw [if_neg hlt, List.flatMap_cons, edgesOfRead_eq, hrest]
      by_cases hfull : readSize ≤ bs.length
      · have hwhole : recordSize ∣ (bs.take readSize).length := by
          rw [List.length_take, Nat.min_eq_left hfull]
          exact Nat.dvd_mul_left recordSize 64
        rw [← keyEdges_append hwhole, List.take_append_drop]
      · rw [List.take_of_length_le (by omega), List.drop_of_length_le (by omega),
          keyEdges_nil, List.append_nil]

end

/-! ## The reads of one device -/

namespace Handle

variable {d d' : Handle} {b b' : Buffer} {n : Nat} {refusal : Refusal}

/-- A read brings what fits into the buffer, or is refused as there is nothing. -/
theorem read_cases (d : Handle) (b : Buffer) :
    (d.unread = [] ∧ ∃ refusal, d.read b = (.error refusal, b, d)) ∨
    d.read b = (.ok (d.unread.take readSize).length, b.put (d.unread.take readSize),
      { d with unread := d.unread.drop readSize }) := by
  unfold read
  split
  · rename_i refusal hd _
    exact .inl ⟨hd, refusal, rfl⟩
  · exact .inr rfl

/-- One turn of the loop, without the facts that it ends for. -/
theorem drain_unfold (d : Handle) (b : Buffer) :
    d.drain b =
      match d.read b with
      | (.ok n, b', d') =>
        if recordSize ≤ n then
          (Held.edgesOfRead (b'.bytes.take n) ++ (d'.drain b').1, (d'.drain b').2)
        else ([], b', d')
      | (.error _, b', d') => ([], b', d') := by
  rw [drain]
  split
  · rename_i n b' d' hread
    by_cases hn : recordSize ≤ n
    · simp only [hread, dif_pos hn, if_pos hn]
    · simp only [hread, dif_neg hn, if_neg hn]
  · rename_i hread
    simp only [hread]
  · rename_i hread
    simp only [hread]

theorem drain_of_refused (h : d.read b = (.error refusal, b', d')) : d.drain b = ([], b', d') := by
  rw [drain_unfold, h]

theorem drain_of_lt (h : d.read b = (.ok n, b', d')) (hn : n < recordSize) :
    d.drain b = ([], b', d') := by
  rw [drain_unfold, h]
  exact if_neg (Nat.not_le.mpr hn)

theorem drain_of_le (h : d.read b = (.ok n, b', d')) (hn : recordSize ≤ n) :
    d.drain b = (Held.edgesOfRead (b'.bytes.take n) ++ (d'.drain b').1, (d'.drain b').2) := by
  rw [drain_unfold, h]
  exact if_pos hn

/-- Whatever the buffer holds, a poll finds the edges of all bytes of a device and leaves none. -/
theorem drain_eq (d : Handle) (b : Buffer) :
    (d.drain b).1 = Held.edges d.unread ∧ (d.drain b).2.2 = { d with unread := [] } := by
  induction hn : d.unread.length using Nat.strongRecOn generalizing d b with
  | ind n ih =>
    rw [Held.edges, reads]
    rcases d.read_cases b with ⟨hnil, refusal, hread⟩ | hread
    · rw [drain_of_refused hread, hnil, if_pos (by decide)]
      exact ⟨rfl, by rw [← hnil]⟩
    · by_cases hlt : d.unread.length < recordSize
      · have hshort : (d.unread.take readSize).length < recordSize :=
          Nat.lt_of_le_of_lt (List.length_take_le' _ _) hlt
        have hnone : d.unread.drop readSize = [] := by
          apply List.drop_of_length_le
          rw [readSize]
          rw [recordSize] at *
          omega
        rw [drain_of_lt hread hshort, if_pos hlt, hnone]
        exact ⟨rfl, rfl⟩
      · have hlen := List.length_take (i := readSize) (l := d.unread)
        have hrecord : recordSize ≤ (d.unread.take readSize).length := by
          rw [hlen]
          rw [readSize, recordSize] at *
          omega
        have hless : (d.unread.drop readSize).length < n := by
          rw [List.length_drop]
          rw [readSize, recordSize] at *
          omega
        obtain ⟨hedges, hleft⟩ := ih _ hless { d with unread := d.unread.drop readSize }
          (b.put (d.unread.take readSize)) rfl
        rw [drain_of_le hread hrecord, if_neg hlt, List.flatMap_cons,
          Buffer.take_put b (List.length_take_le _ _), hedges, hleft]
        exact ⟨rfl, rfl⟩

end Handle

/-! ## One poll -/

namespace Listener

theorem drainAll_eq (ds : List Handle) (b : Buffer) :
    (drainAll b ds).1 = ds.flatMap (fun d => Held.edges d.unread) ∧
    (drainAll b ds).2.2 = ds.map fun d => { d with unread := [] } := by
  induction ds generalizing b with
  | nil => exact ⟨rfl, rfl⟩
  | cons d ds ih =>
    obtain ⟨hedges, hleft⟩ := d.drain_eq b
    obtain ⟨hedges', hleft'⟩ := ih (d.drain b).2.1
    simp only [drainAll, List.flatMap_cons, List.map_cons, hedges, hleft, hedges', hleft', and_self]

theorem deliver_eq (sent : Nat) (h : Held) (es : List Edge) :
    deliver sent h es =
      (⟨sent + (h.translateAll es).1.length, (h.translateAll es).1⟩, (h.translateAll es).2) := by
  induction es generalizing sent h with
  | nil => rfl
  | cons e es ih =>
    simp only [deliver, Held.translateAll]
    split
    · rename_i h' ht
      rw [ht, ih]
      rfl
    · rename_i m h' ht
      rw [ht, ih]
      simp only [Option.toList_some, List.singleton_append, List.length_cons, Nat.add_assoc,
        Nat.add_comm 1]

/-- A poll sends the motions of the bytes that wait in the devices, and empties them. -/
theorem poll_eq (l : Listener) :
    l.poll.1.motions = (l.held.poll (l.devices.map Handle.unread)).1 ∧
    l.poll.1.sent = l.poll.1.motions.length ∧
    l.poll.2.held = (l.held.poll (l.devices.map Handle.unread)).2 ∧
    l.poll.2.devices = l.devices.map fun d => { d with unread := [] } := by
  obtain ⟨hedges, hleft⟩ := drainAll_eq l.devices l.buffer
  simp only [poll, deliver_eq, hedges, hleft, Held.poll, List.flatMap_map, Nat.zero_add, and_self]

/-! ## Polls one after the other -/

/-- The edges found on `n` devices, in the order of the devices. -/
def found (n : Nat) (bytes : Nat → List UInt8) : List Edge :=
  (List.range n).flatMap fun i => keyEdges (bytes i)

def Drained (l : Listener) : Prop := ∀ d ∈ l.devices, d.unread = []

variable {l l' : Listener}

theorem drained_opened (idle : List (Option Refusal)) : Drained (opened idle) := by
  intro d hd
  obtain ⟨refusal, _, rfl⟩ := List.mem_map.mp hd
  rfl

theorem Drained.found_eq (h : Drained l) (bytes : Nat → List UInt8) :
    ((l.arrive bytes).devices.map Handle.unread).flatMap Held.edges =
      found l.devices.length bytes := by
  have hunread : (l.arrive bytes).devices.map Handle.unread =
      (List.range l.devices.length).map bytes := by
    refine List.ext_getElem (by simp [arrive]) fun i hi hi' => ?_
    simp only [List.length_map, List.length_range] at hi'
    simp [arrive, h _ (List.getElem_mem hi')]
  rw [hunread, List.flatMap_map, found]
  simp only [edges_eq_keyEdges]

theorem Drained.devices_eq (h : Drained l) (bytes : Nat → List UInt8) :
    ((l.arrive bytes).devices.map fun d => { d with unread := [] }) = l.devices := by
  refine List.ext_getElem (by simp [arrive]) fun i hi hi' => ?_
  have hnone := h _ (List.getElem_mem hi')
  simp only [arrive, List.getElem_map, List.getElem_mapIdx, ← hnone]

/-- A poll of a drained listener gives the motions of the bytes that have arrived since. -/
theorem Drained.poll (h : Drained l) (bytes : Nat → List UInt8) :
    (l.arrive bytes).poll.1.motions =
      (l.held.translateAll (found l.devices.length bytes)).1 ∧
    (l.arrive bytes).poll.1.sent = (l.arrive bytes).poll.1.motions.length ∧
    (l.arrive bytes).poll.2.held =
      (l.held.translateAll (found l.devices.length bytes)).2 ∧
    (l.arrive bytes).poll.2.devices = l.devices := by
  obtain ⟨hmotions, hsent, hheld, hdevices⟩ := (l.arrive bytes).poll_eq
  rw [Held.poll, h.found_eq] at hmotions hheld
  rw [h.devices_eq] at hdevices
  exact ⟨hmotions, hsent, hheld, hdevices⟩

/-- Several polls give the motions of all that has arrived, poll by poll. -/
theorem Drained.pollAll (h : Drained l) (arrivals : List (Nat → List UInt8)) :
    (l.pollAll arrivals).1.flatMap Report.motions =
      (l.held.translateAll (arrivals.flatMap (found l.devices.length))).1 ∧
    (l.pollAll arrivals).2.held =
      (l.held.translateAll (arrivals.flatMap (found l.devices.length))).2 ∧
    (l.pollAll arrivals).2.devices = l.devices := by
  induction arrivals generalizing l with
  | nil => exact ⟨rfl, rfl, rfl⟩
  | cons bytes arrivals ih =>
    obtain ⟨hmotions, _, hheld, hdevices⟩ := h.poll bytes
    have hdrained : Drained (l.arrive bytes).poll.2 := by
      rw [Drained, hdevices]
      exact h
    obtain ⟨hmotions', hheld', hdevices'⟩ := ih hdrained
    rw [hheld, hdevices] at hmotions' hheld'
    rw [hdevices] at hdevices'
    simp only [Listener.pollAll, List.flatMap_cons, Held.translateAll_append, hmotions, hmotions',
      hheld', hdevices', and_self]

/-- Listeners that differ in their buffers alone report the same, and go on to differ in nothing
else. -/
theorem poll_congr (hdevices : l.devices = l'.devices) (hheld : l.held = l'.held) :
    l.poll.1 = l'.poll.1 ∧ l.poll.2.devices = l'.poll.2.devices ∧
    l.poll.2.held = l'.poll.2.held := by
  obtain ⟨hm, hs, hh, hd⟩ := l.poll_eq
  obtain ⟨hm', hs', hh', hd'⟩ := l'.poll_eq
  rw [← hdevices, ← hheld] at hm' hh'
  rw [← hdevices] at hd'
  have hmotions := hm.trans hm'.symm
  have hsent : l.poll.1.sent = l'.poll.1.sent := by rw [hs, hs', hmotions]
  refine ⟨?_, hd.trans hd'.symm, hh.trans hh'.symm⟩
  calc l.poll.1 = ⟨l.poll.1.sent, l.poll.1.motions⟩ := rfl
    _ = ⟨l'.poll.1.sent, l'.poll.1.motions⟩ := by rw [hsent, hmotions]

theorem pollAll_congr (hdevices : l.devices = l'.devices) (hheld : l.held = l'.held)
    (arrivals : List (Nat → List UInt8)) : (l.pollAll arrivals).1 = (l'.pollAll arrivals).1 := by
  induction arrivals generalizing l l' with
  | nil => rfl
  | cons bytes arrivals ih =>
    have harrive : (l.arrive bytes).devices = (l'.arrive bytes).devices := by
      rw [arrive, arrive, hdevices]
    obtain ⟨hreport, hdevices', hheld'⟩ := poll_congr harrive hheld
    simp only [Listener.pollAll, hreport, ih hdevices' hheld']

/-! ## Records in batches -/

/-- The bytes of one record. -/
abbrev RawRecord := { bs : List UInt8 // bs.length = 24 }

def bytesOf (rs : List RawRecord) : List UInt8 := rs.flatMap Subtype.val

theorem dvd_length_bytesOf (rs : List RawRecord) : recordSize ∣ (bytesOf rs).length := by
  induction rs with
  | nil => exact Nat.dvd_zero _
  | cons r rs ih =>
    rw [bytesOf, List.flatMap_cons, List.length_append, r.property]
    exact Nat.dvd_add (Nat.dvd_refl _) ih

theorem keyEdges_bytesOf_flatten (batches : List (List RawRecord)) :
    keyEdges (bytesOf batches.flatten) = batches.flatMap fun rs => keyEdges (bytesOf rs) := by
  induction batches with
  | nil => exact keyEdges_nil
  | cons rs batches ih =>
    rw [List.flatMap_cons, ← ih, ← keyEdges_append (dvd_length_bytesOf rs), List.flatten_cons,
      bytesOf, List.flatMap_append, bytesOf, bytesOf]

theorem found_one (bytes : Nat → List UInt8) : found 1 bytes = keyEdges (bytes 0) :=
  List.flatMap_singleton _ _

/-- The listener to some devices after several polls. -/
def listenerAfter (idle : List (Option Refusal)) (past : List (Nat → List UInt8)) : Listener :=
  ((opened idle).pollAll past).2

theorem drained_listenerAfter (idle : List (Option Refusal)) (past : List (Nat → List UInt8)) :
    Drained (listenerAfter idle past) ∧ (listenerAfter idle past).devices.length = idle.length := by
  have hopened := drained_opened idle
  obtain ⟨_, _, hdevices⟩ := hopened.pollAll past
  rw [Drained, listenerAfter, hdevices]
  exact ⟨hopened, List.length_map _⟩

/-- Whatever was polled before, a poll translates the key edges among the whole records of the bytes
that each device got since, device by device, counts the motions that it sends, and leaves nothing
to read. For one device the records may come in any batches: the polls together send the motions of
one poll of them all, and the listener is left the same but for what its buffer holds, which no
later poll shows. -/
theorem polls_find_whole_records :
    (∀ (idle : List (Option Refusal)) (past : List (Nat → List UInt8)) (bytes : Nat → List UInt8),
      let l := listenerAfter idle past
      let polled := (l.arrive bytes).poll
      polled.1.motions = (l.held.translateAll (found idle.length bytes)).1 ∧
      polled.1.sent = polled.1.motions.length ∧
      polled.2.held = (l.held.translateAll (found idle.length bytes)).2 ∧
      polled.2.devices.length = idle.length ∧ ∀ d ∈ polled.2.devices, d.unread = []) ∧
    (∀ (idle : Option Refusal) (past : List (Nat → List UInt8)) (batches : List (List RawRecord)),
      let l := listenerAfter [idle] past
      let polled := l.pollAll (batches.map fun rs _ => bytesOf rs)
      let once := (l.arrive fun _ => bytesOf batches.flatten).poll
      polled.1.flatMap Report.motions = once.1.motions ∧ polled.2.held = once.2.held ∧
      polled.2.devices = once.2.devices ∧
      ∀ later, (polled.2.pollAll later).1 = (once.2.pollAll later).1) := by
  refine ⟨fun idle past bytes => ?_, fun idle past batches => ?_⟩
  · obtain ⟨hdrained, hlen⟩ := drained_listenerAfter idle past
    obtain ⟨hmotions, hsent, hheld, hdevices⟩ := hdrained.poll bytes
    rw [hlen] at hmotions hheld
    refine ⟨hmotions, hsent, hheld, ?_, ?_⟩
    · rw [hdevices, hlen]
    · rw [hdevices]
      exact hdrained
  · obtain ⟨hdrained, hlen⟩ := drained_listenerAfter [idle] past
    rw [List.length_singleton] at hlen
    obtain ⟨hmotions, hheld, hdevices⟩ := hdrained.pollAll (batches.map fun rs _ => bytesOf rs)
    obtain ⟨honce, _, honceHeld, honceDevices⟩ := hdrained.poll fun _ => bytesOf batches.flatten
    have hedges : (batches.map fun rs _ => bytesOf rs).flatMap (found 1) =
        found 1 fun _ => bytesOf batches.flatten := by
      simp only [List.flatMap_map, found_one, keyEdges_bytesOf_flatten]
    rw [hlen, hedges] at hmotions hheld
    rw [hlen] at honce honceHeld
    have hsame := hheld.trans honceHeld.symm
    have hdevices' := hdevices.trans honceDevices.symm
    exact ⟨hmotions.trans honce.symm, hsame, hdevices', pollAll_congr hdevices' hsame⟩

/-- The key A goes down. -/
def pressOfA : RawRecord :=
  ⟨[1, 2, 3, 4, 5, 6, 7, 8, 9, 10, 11, 12, 13, 14, 15, 16, 1, 0, 30, 0, 1, 0, 0, 0], rfl⟩

/-- The key A goes up. -/
def releaseOfA : RawRecord :=
  ⟨[2, 2, 3, 4, 5, 6, 7, 8, 9, 10, 11, 12, 13, 14, 15, 16, 1, 0, 30, 0, 0, 0, 0, 0], rfl⟩

/-- The numbers of a press of A in a record of the kind 256 + 1. -/
def otherKind : RawRecord :=
  ⟨[1, 2, 3, 4, 5, 6, 7, 8, 9, 10, 11, 12, 13, 14, 15, 16, 1, 1, 30, 0, 1, 0, 0, 0], rfl⟩

/-- The scancode 256 + 30, which has no key, goes down. -/
def pressOfNoKey : RawRecord :=
  ⟨[1, 2, 3, 4, 5, 6, 7, 8, 9, 10, 11, 12, 13, 14, 15, 16, 1, 0, 30, 1, 1, 0, 0, 0], rfl⟩

/-- Two devices hand over a record each, one of them with another one in front and some bytes of the
next one behind it; and a device hands over its records in batches, one of which is empty. -/
theorem polls_find_press_of_a :
    let bytes : Nat → List UInt8 := fun i =>
      if i = 0 then pressOfNoKey.val else bytesOf [otherKind, pressOfA] ++ [9, 9, 9]
    let polled := ((listenerAfter [none, none] []).arrive bytes).poll
    let batches := [[otherKind, pressOfA], [], [releaseOfA]]
    (found 2 bytes = [⟨286, 1⟩, ⟨30, 1⟩] ∧ polled.1.motions = [.press .letterA] ∧
      polled.1.sent = 1) ∧
    ((listenerAfter [none] []).pollAll (batches.map fun rs _ => bytesOf rs)).1.flatMap
      Report.motions = [.press .letterA, .release .letterA] := by
  intro bytes polled batches
  obtain ⟨hpolls, hbatches⟩ := polls_find_whole_records
  have hfound : found 2 bytes = [⟨286, 1⟩, ⟨30, 1⟩] := by decide +kernel
  have hmotions : polled.1.motions = [.press .letterA] := by
    rw [(hpolls [none, none] [] bytes).1]
    exact (congrArg (fun es => (Held.translateAll {} es).1) hfound).trans (by decide +kernel)
  refine ⟨⟨hfound, hmotions, ?_⟩, ?_⟩
  · rw [(hpolls [none, none] [] bytes).2.1, hmotions]
    rfl
  · rw [(hbatches none [] batches).1, (hpolls [none] [] fun _ => bytesOf batches.flatten).1]
    decide +kernel

end Listener

end ChordDrill.Device
