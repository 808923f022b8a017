import ChipEight.Proofs.Loading
import ChipEight.Proofs.Service

set_option autoImplicit false

namespace ChipEight.Memory

structure Write where
  index : Int
  value : Int

namespace Write

def Fits (write : Write) : Prop :=
  (-4096 ≤ write.index ∧ write.index < 4096) ∧ 0 ≤ write.value ∧ write.value < 256

instance (write : Write) : Decidable write.Fits :=
  inferInstanceAs (Decidable ((_ ∧ _) ∧ _))

def refusal (write : Write) : Fault :=
  if Width.fits write.index = false then .indexTooWide
  else if 0 ≤ write.value ∧ write.value < 256 then .indexOutside
  else .notAByte

def Meets (address : Nat) (write : Write) : Prop :=
  write.Fits ∧ write.index = address

def Reaches (address : Nat) (write : Write) : Prop :=
  write.Fits ∧ (write.index = address ∨ write.index + 4096 = address)

instance (address : Nat) : DecidablePred (Reaches address) :=
  fun _ => inferInstanceAs (Decidable (_ ∧ _))

end Write

def put (memory : Memory) (write : Write) : Except Fault Unit × Memory :=
  settle memory do
    return ((), ← memory.write write.index write.value)

variable {write : Write}

theorem put_fitting (memory : Memory) (fits : write.Fits) :
    ∃ place : Fin 4096, (∀ address < 4096, write.Reaches address ↔ address = place.val) ∧
      memory.put write = (.ok (), ⟨Row.replace memory.bytes place
        (UInt8.ofNat write.value.toNat)⟩) := by
  obtain ⟨near, value⟩ := fits
  have width := Row.checkWidth_small write.index (by omega)
  have reaches (place : Fin 4096)
      (stands : (place.val : Int) = write.index ∨ (place.val : Int) = write.index + 4096)
      (address : Nat) (small : address < 4096) : write.Reaches address ↔ address = place.val := by
    refine (and_iff_right ⟨near, value⟩).trans ⟨fun same => ?_, fun same => ?_⟩ <;> omega
  by_cases front : 0 ≤ write.index
  · have inside : 0 ≤ write.index ∧ write.index < (4096 : Nat) := ⟨front, near.2⟩
    refine ⟨_, reaches ⟨write.index.toNat, Row.index_lt inside⟩ (by dsimp only; omega), ?_⟩
    simp only [put, Memory.write, Row.store, width, Row.byte_inside value,
      Row.position_inside (show 4096 ≤ 0x8000000000000000 by decide) _ inside]
    rfl
  · have back : write.index < 0 ∧ 0 ≤ write.index + (4096 : Nat) := by omega
    refine ⟨_, reaches ⟨(write.index + (4096 : Nat)).toNat, by omega⟩ (by dsimp only; omega), ?_⟩
    simp only [put, Memory.write, Row.store, width, Row.byte_inside value,
      Row.position_back (show 4096 ≤ 0x8000000000000000 by decide) _ back]
    rfl

theorem put_unfit (memory : Memory) (unfit : ¬ write.Fits) :
    memory.put write = (.error write.refusal, memory) := by
  simp only [put, Memory.write, Row.store, Row.checkWidth, Write.refusal]
  cases width : Width.fits write.index with
  | false => rfl
  | true =>
    by_cases value : 0 ≤ write.value ∧ write.value < 256
    · have missing : ¬ (-((4096 : Nat) : Int) ≤ write.index ∧ write.index < (4096 : Nat)) :=
        fun near => unfit ⟨near, value⟩
      simp only [Row.byte_inside value, Row.position_missing _ missing, width, value]
      rfl
    · simp only [Row.byte_outside value, value]
      rfl

theorem read_put (memory : Memory) (write : Write) (address : Fin 4096) :
    (memory.put write).2.read address.val =
      if write.Reaches address.val then .ok (UInt8.ofNat write.value.toNat)
      else memory.read address.val := by
  have inside : 0 ≤ (address.val : Int) ∧ (address.val : Int) < 4096 := by omega
  by_cases fits : write.Fits
  · obtain ⟨place, reaches, same⟩ := memory.put_fitting fits
    rw [same, read_inside _ inside, read_inside _ inside]
    simp only [Row.get_replace, Fin.ext_iff, Int.toNat_natCast, reaches address.val address.isLt]
    split <;> rfl
  · rw [put_unfit memory fits, if_neg fun reaches => fits reaches.1]

theorem read_writes (memory : Memory) (writes : List Write) (address : Fin 4096) :
    (serveAll put memory writes).2.read address.val =
      latest (Write.Reaches address.val) (fun write => .ok (UInt8.ofNat write.value.toNat))
        (memory.read address.val) writes :=
  serveAll_latest (fun memory : Memory => memory.read address.val)
    (fun memory write => read_put memory write address) memory writes

structure Written (reaches : Nat → Write → Prop) (before : Memory) (writes : List Write)
    (after : Memory) : Prop where
  reached : ∀ (address : Fin 4096) (earlier : List Write) (write : Write) (later : List Write),
    writes = earlier ++ write :: later → reaches address.val write →
      (∀ other ∈ later, ¬ reaches address.val other) →
        ∃ byte, after.read address.val = .ok byte ∧ byte.toNat = write.value
  unreached : ∀ address : Fin 4096, (∀ write ∈ writes, ¬ reaches address.val write) →
    after.read address.val = before.read address.val

theorem writes_written (memory : Memory) (writes : List Write) :
    memory.Written Write.Reaches writes (serveAll put memory writes).2 where
  reached := by
    rintro address earlier write later rfl reaches unreached
    refine ⟨_, (read_writes memory _ address).trans (latest_of_last reaches unreached), ?_⟩
    obtain ⟨⟨-, value⟩, -⟩ := reaches
    rw [UInt8.toNat_ofNat']
    omega
  unreached := by
    intro address unreached
    rw [read_writes memory writes address, latest_of_untouched unreached]

theorem Written.congr {reaches others : Nat → Write → Prop} {before after : Memory}
    {writes : List Write} (written : before.Written reaches writes after)
    (same : ∀ write ∈ writes, ∀ address : Fin 4096,
      others address.val write ↔ reaches address.val write) :
    before.Written others writes after where
  reached := by
    rintro address earlier write later rfl reaches unreached
    refine written.reached address earlier write later rfl
      ((same write (by simp) address).mp reaches) fun other member => ?_
    exact mt (same other (by simp [member]) address).mpr (unreached other member)
  unreached := by
    intro address unreached
    exact written.unreached address fun write member =>
      mt (same write member address).mpr (unreached write member)

theorem Write.meets_iff_reaches (front : 0 ≤ write.index) (address : Fin 4096) :
    write.Meets address.val ↔ write.Reaches address.val := by
  refine and_congr_right fun _ => ⟨.inl, fun stands => ?_⟩
  omega

/-- A byte is the one that was last put at an index that stands for its address, from either end. -/
theorem byte_of_last_write (memory : Memory) (writes : List Write) :
    let after := (serveAll put memory writes).2
    (∀ write, (write.Fits → (after.put write).1 = .ok ()) ∧
      (¬ write.Fits → after.put write = (.error write.refusal, after))) ∧
    memory.Written Write.Reaches writes after ∧
    ((∀ write ∈ writes, 0 ≤ write.index) → memory.Written Write.Meets writes after) ∧
    ∀ write, (after.put write).1 = .ok () →
      ((∃ byte, after.read write.index = .ok byte) ↔ 0 ≤ write.index) := by
  intro after
  have written := writes_written memory writes
  have accepted {write : Write} (fits : write.Fits) : (after.put write).1 = .ok () := by
    obtain ⟨place, -, same⟩ := after.put_fitting fits
    rw [same]
  refine ⟨fun write => ⟨accepted, put_unfit after⟩, written, fun front => ?_, ?_⟩
  · exact written.congr fun write member => Write.meets_iff_reaches (front write member)
  · intro write succeeded
    by_cases fits : write.Fits
    · by_cases front : 0 ≤ write.index
      · exact iff_of_true ⟨_, after.read_inside ⟨front, fits.1.2⟩⟩ front
      · refine iff_of_false ?_ front
        rintro ⟨byte, found⟩
        cases (after.read_outside fun inside => front inside.1).symm.trans found
    · rw [put_unfit after fits] at succeeded
      cases succeeded

theorem read_fresh_last : fresh.read 4095 = .ok 0 := by
  have zero : (Vector.replicate 4096 (0 : UInt8))[4095] = 0 := Vector.getElem_replicate _
  have last := getElem_overlay ⟨Vector.replicate 4096 0⟩ Font.start Font.glyphs
    (show 4095 < 4096 by decide)
  -- The font does not reach as far.
  rw [if_pos (by decide), Array.getElem?_eq_none (by decide), Option.getD_none, zero] at last
  exact (fresh.read_inside (by decide)).trans (congrArg Except.ok last)

theorem write_before_start :
    let write : Write := ⟨-1, 0xAB⟩
    let after := (serveAll put fresh [write]).2
    (fresh.put write).1 = .ok () ∧ fresh.read 4095 = .ok 0 ∧ after.read 4095 = .ok 0xAB ∧
      ¬ fresh.Written Write.Meets [write] after ∧
      after.read write.index = .error (.addressOutside (-1)) := by
  intro write after
  obtain ⟨_, -, accepted⟩ := fresh.put_fitting (show write.Fits by decide)
  have last : after.read 4095 = .ok 0xAB := read_put fresh write 4095
  refine ⟨congrArg Prod.fst accepted, read_fresh_last, last, fun written => ?_, ?_⟩
  · have same := written.unreached 4095 (by simp [write, Write.Meets])
    cases last.symm.trans (same.trans read_fresh_last)
  · exact after.read_outside (by decide)

end ChipEight.Memory
