import WifiSniffer.Session.Queue
import Mathlib.Data.List.Chain
import Mathlib.Data.List.Forall2
import Mathlib.Data.Prod.Lex

/-!
# Record times

The driver stamps every packet with a counter of 32 bits that counts microseconds
since power-up, and `capture_create_pcap_record` splits that counter into seconds
and microseconds.  The split keeps the order, so the times of the records handed
to `on_capture` never go backwards exactly as long as the counter does not, which
it does when it starts again from zero after 71 minutes.
-/

namespace WifiSniffer.Session

open WifiSniffer.Capture WifiSniffer.Handler WifiSniffer.Transition

variable {cfg : SdkConfig}

/-- The time in the header of a record. -/
def recordTime {snapLen : Nat} (record : PcapRec snapLen) : Nat ×ₗ Nat :=
  toLex (record.pcapRecHdr.tsSec.toNat, record.pcapRecHdr.tsUsec.toNat)

/-- Quotient and remainder, compared in this order, compare like the numbers. -/
theorem toLex_div_mod_le_iff (first second unit : Nat) :
    toLex (first / unit, first % unit) ≤ toLex (second / unit, second % unit) ↔
      first ≤ second := by
  rw [Prod.Lex.toLex_le_toLex']
  constructor
  · rintro ⟨div_le, mod_le⟩
    rcases Nat.lt_or_eq_of_le div_le with div_lt | div_eq
    · exact Nat.le_of_lt (Nat.lt_of_div_lt_div div_lt)
    · calc first
        _ = unit * (first / unit) + first % unit := (Nat.div_add_mod first unit).symm
        _ ≤ unit * (second / unit) + second % unit := by
          rw [show first / unit = second / unit from div_eq]
          exact Nat.add_le_add_left (mod_le div_eq) _
        _ = second := Nat.div_add_mod second unit
  · intro le
    refine ⟨Nat.div_le_div_right le, fun div_eq => ?_⟩
    have div_eq : first / unit = second / unit := div_eq
    have first_eq := Nat.div_add_mod first unit
    have second_eq := Nat.div_add_mod second unit
    rw [div_eq] at first_eq
    change first % unit ≤ second % unit
    omega

theorem recordTime_callRecord (call : Reception) :
    recordTime (callRecord cfg call) =
      toLex (call.pkt.rxCtrl.timestamp.toNat / 1000000,
        call.pkt.rxCtrl.timestamp.toNat % 1000000) :=
  rfl

/-- The driver reports the true times, in microseconds, modulo `2 ^ 32`. -/
def Clocked (calls : List Reception) (times : List Nat) : Prop :=
  List.Forall₂ (fun call time => call.pkt.rxCtrl.timestamp.toNat = time % 2 ^ 32) calls times

/-- The counters of a list of calls are the remainders of their times. -/
theorem Clocked.counters {calls : List Reception} {times : List Nat}
    (clocked : Clocked calls times) :
    calls.map (fun call => call.pkt.rxCtrl.timestamp.toNat) =
      times.map (fun time => time % 2 ^ 32) := by
  rw [← List.forall₂_eq_eq_eq, List.forall₂_map_left_iff, List.forall₂_map_right_iff]
  exact clocked

theorem Clocked.take {calls : List Reception} {times : List Nat}
    (clocked : Clocked calls times) (count : Nat) :
    Clocked (calls.take count) (times.take count) :=
  List.forall₂_take count clocked

instance (calls : List Reception) (times : List Nat) : Decidable (Clocked calls times) :=
  inferInstanceAs (Decidable (List.Forall₂ _ calls times))

/-- The records that have left the queue are those of the calls admitted first. -/
theorem InOrder.captured_eq {admitted : List Reception} {state : State cfg}
    (ordered : InOrder admitted state) :
    state.captured = (admitted.take state.captured.length).map (callRecord cfg) := by
  rw [InOrder] at ordered
  rw [List.map_take, ← ordered, List.take_left]

/-- In every run, the times of the records in the order in which they are handed
to `on_capture` never go backwards if and only if the driver's counter does not
between any two successive ones. -/
theorem record_times_nondecreasing_iff {events : List Event} {last : State cfg}
    (run : exec step (initial cfg) events = some last) {times : List Nat}
    (clocked : Clocked (collect step admittedBy (initial cfg) events) times) :
    (last.captured.map recordTime).Pairwise (· ≤ ·) ↔
      (times.take last.captured.length).IsChain
        (fun first second => first % 2 ^ 32 ≤ second % 2 ^ 32) := by
  have captured_eq := (inOrder_of_run run).captured_eq
  have counters_eq := (clocked.take last.captured.length).counters
  have counter_le_iff : ∀ first second : Reception,
      recordTime (callRecord cfg first) ≤ recordTime (callRecord cfg second) ↔
        first.pkt.rxCtrl.timestamp.toNat ≤ second.pkt.rxCtrl.timestamp.toNat := by
    intro first second
    rw [recordTime_callRecord, recordTime_callRecord, toLex_div_mod_le_iff]
  generalize last.captured.length = count at captured_eq counters_eq ⊢
  calc (last.captured.map recordTime).Pairwise (· ≤ ·)
    _ ↔ ((collect step admittedBy (initial cfg) events).take count).Pairwise
          (fun first second => first.pkt.rxCtrl.timestamp.toNat ≤
            second.pkt.rxCtrl.timestamp.toNat) := by
        rw [captured_eq, List.map_map, List.pairwise_map]
        simp only [Function.comp_apply, counter_le_iff]
    _ ↔ ((times.take count).map (fun time => time % 2 ^ 32)).Pairwise (· ≤ ·) := by
        rw [← counters_eq, List.pairwise_map]
    _ ↔ ((times.take count).map (fun time => time % 2 ^ 32)).IsChain (· ≤ ·) :=
        List.isChain_iff_pairwise.symm
    _ ↔ (times.take count).IsChain (fun first second => first % 2 ^ 32 ≤ second % 2 ^ 32) :=
        List.isChain_map _

/-- The beacon, received at the given count of the driver. -/
def beaconAt (timestamp : UInt32) : Reception :=
  { beacon with
    pkt := { beacon.pkt with rxCtrl := { beacon.pkt.rxCtrl with timestamp := timestamp } } }

/-- The condition for two beacons within one turn of the counter. -/
theorem record_times_nondecreasing_iff_beacons :
    ∃ last : State SdkConfig.smallest,
      exec step (initial _)
          [.accept 54 true, .run 0 24, .frame (beaconAt 5), .frame (beaconAt 1000000),
            .run 0 60, .run 0 60] = some last ∧
        ((last.captured.map recordTime).Pairwise (· ≤ ·) ↔
          ([5, 1000000].take last.captured.length).IsChain
            (fun first second => first % 2 ^ 32 ≤ second % 2 ^ 32)) := by
  have runs : (exec step (initial SdkConfig.smallest)
      [.accept 54 true, .run 0 24, .frame (beaconAt 5), .frame (beaconAt 1000000), .run 0 60,
        .run 0 60]).isSome := by
    decide +kernel
  rcases Option.isSome_iff_exists.mp runs with ⟨last, run⟩
  have clocked : Clocked (collect step admittedBy (initial SdkConfig.smallest)
      [.accept 54 true, .run 0 24, .frame (beaconAt 5), .frame (beaconAt 1000000), .run 0 60,
        .run 0 60]) [5, 1000000] := by
    decide +kernel
  exact ⟨last, run, record_times_nondecreasing_iff run clocked⟩

/-- The counter starts again from zero between two beacons a microsecond apart. -/
theorem record_times_wrap :
    ∃ last : State SdkConfig.smallest,
      exec step (initial _)
          [.accept 54 true, .run 0 24, .frame (beaconAt 4294967295), .frame (beaconAt 0),
            .run 0 60, .run 0 60] = some last ∧
        Clocked
          (collect step admittedBy (initial SdkConfig.smallest)
            [.accept 54 true, .run 0 24, .frame (beaconAt 4294967295), .frame (beaconAt 0),
              .run 0 60, .run 0 60])
          [4294967295, 4294967296] ∧
        [4294967295, 4294967296].Pairwise (· ≤ ·) ∧
        ¬ (last.captured.map recordTime).Pairwise (· ≤ ·) := by
  have runs : (exec step (initial SdkConfig.smallest)
      [.accept 54 true, .run 0 24, .frame (beaconAt 4294967295), .frame (beaconAt 0),
        .run 0 60, .run 0 60]).map (fun last => last.captured.map recordTime) =
      some [toLex (4294, 967295), toLex (0, 0)] := by
    decide +kernel
  rcases Option.map_eq_some_iff.mp runs with ⟨last, run, times_eq⟩
  refine ⟨last, run, by decide +kernel, by decide, ?_⟩
  rw [times_eq]
  decide

end WifiSniffer.Session
