import WifiSniffer.Bytes.Scan
import WifiSniffer.Capture.RoundTrip

/-!
# Captures that are still growing

A client reads a capture while it is written.  Its bytes come in pieces that begin and end
anywhere, also inside the global header or a record, and the reader shows what is there
whole.
-/

namespace WifiSniffer.Capture.Format

open WifiSniffer.Bytes

/-! ## Reading piece by piece -/

/-- A reader: the global header and the frames that it has read, and the bytes from which
it has not read anything yet. -/
structure Reader where
  header : Option FileHeader
  frames : List CapturedFrame
  pending : List UInt8
  deriving DecidableEq

/-- Nothing has come in yet. -/
def Reader.start : Reader where
  header := none
  frames := []
  pending := []

/-- Read on behind the global header.  A record whose packet has no radiotap header makes
the reader give up. -/
def Reader.readPackets (header : FileHeader) (frames : List CapturedFrame) (input : List UInt8) :
    Option Reader := do
  let (packets, pending) := scan (decodePacket header.snaplen) input.length input
  let found ← packets.mapM decodeFrame
  pure ⟨some header, frames ++ found, pending⟩

/-- A piece comes in. -/
def Reader.feed (reader : Reader) (piece : List UInt8) : Option Reader :=
  let input := reader.pending ++ piece
  match reader.header with
  | some header => readPackets header reader.frames input
  | none =>
      match decodeFileHeader input with
      | none => some { reader with pending := input }
      | some (header, rest) => if header.linkType = 127 then readPackets header [] rest else none

/-- One piece after the other. -/
def Reader.feedAll (reader : Reader) (pieces : List (List UInt8)) : Option Reader :=
  pieces.foldlM feed reader

/-! ## The decoders on parts of a stream -/

theorem stable_decodeFileHeader : Stable decodeFileHeader :=
  (stable_decodeLe 4).bind fun magic =>
    Stable.guard
      ((stable_decodeLe 2).bind fun versionMajor => (stable_decodeLe 2).bind fun versionMinor =>
        (stable_decodeLe 4).bind fun thiszone => (stable_decodeLe 4).bind fun sigfigs =>
          (stable_decodeLe 4).bind fun snaplen => (stable_decodeLe 4).bind fun linkType =>
            stable_pure
              (⟨versionMajor, versionMinor, thiszone, sigfigs, snaplen, linkType⟩ : FileHeader))
      (magic = 0xa1b2c3d4)

theorem stable_decodePacket (snaplen : Nat) : Stable (decodePacket snaplen) :=
  (stable_decodeLe 4).bind fun tsSec => (stable_decodeLe 4).bind fun tsUsec =>
    (stable_decodeLe 4).bind fun inclLen => (stable_decodeLe 4).bind fun origLen =>
      Stable.guard
        ((stable_takeExact inclLen).bind fun data =>
          stable_pure (⟨tsSec, tsUsec, origLen, data⟩ : Packet))
        (inclLen ≤ snaplen ∧ inclLen ≤ origLen)

theorem uses_decodePacket (snaplen : Nat) : Uses 4 (decodePacket snaplen) := by
  have word : Uses 0 (decodeLe 4) := (uses_decodeLe 4).mono (Nat.zero_le 4)
  exact (uses_decodeLe 4).bind fun tsSec => word.bind fun tsUsec => word.bind fun inclLen =>
    word.bind fun origLen =>
      Uses.guard
        (((uses_takeExact inclLen).mono (Nat.zero_le _)).bind fun data =>
          uses_pure (⟨tsSec, tsUsec, origLen, data⟩ : Packet))
        (inclLen ≤ snaplen ∧ inclLen ≤ origLen)

end WifiSniffer.Capture.Format

namespace WifiSniffer.Capture

open WifiSniffer.Bytes
open Format (Reader decodeFileHeader decodePacket decodeFrame stable_decodeFileHeader
  stable_decodePacket uses_decodePacket)

/-! ## What has been read -/

variable {cfg : SdkConfig} {packets : List WifiPromiscuousPkt} {input piece : List UInt8}
  {reader : Reader}

/-- What is sent for a packet. -/
def sentFor (cfg : SdkConfig) (pkt : WifiPromiscuousPkt) : List UInt8 :=
  (builtRecord cfg pkt).sentBytes

/-- What a reader makes of the beginning of the capture of some packets: nothing before the
global header is there, and then a frame for each packet whose record is there whole. -/
inductive HasRead (cfg : SdkConfig) (packets : List WifiPromiscuousPkt) :
    List UInt8 → Reader → Prop
  | opening {input : List UInt8} (short : input.length < 24) :
      HasRead cfg packets input ⟨none, [], input⟩
  | reading {whole back : List WifiPromiscuousPkt} {pending : List UInt8}
      (packets_eq : packets = whole ++ back) (breaks : BreaksOff (sentFor cfg) back pending) :
      HasRead cfg packets (captureStream cfg whole ++ pending)
        ⟨some (fileHeader cfg),
          whole.map fun pkt => frameOf cfg pkt.rxCtrl.withoutFcs pkt.payload, pending⟩

/-- The records of more packets lengthen a capture. -/
theorem captureStream_append (cfg : SdkConfig) (whole more : List WifiPromiscuousPkt) :
    captureStream cfg whole ++ more.flatMap (sentFor cfg) = captureStream cfg (whole ++ more) := by
  rw [captureStream, captureStream, List.flatMap_append, List.append_assoc]
  rfl

/-- Behind the global header, exactly the records that are there whole are read. -/
theorem readPackets_of_prefix (whole : List WifiPromiscuousPkt)
    {back : List WifiPromiscuousPkt} (front : input <+: back.flatMap (sentFor cfg)) :
    ∃ next, Reader.readPackets (fileHeader cfg)
        (whole.map fun pkt => frameOf cfg pkt.rxCtrl.withoutFcs pkt.payload) input = some next ∧
      HasRead cfg (whole ++ back) (captureStream cfg whole ++ input) next := by
  have splits (pkt : WifiPromiscuousPkt) (rest : List UInt8) :
      decodePacket (fileHeader cfg).snaplen (sentFor cfg pkt ++ rest) =
        some (packetOf cfg pkt.rxCtrl.withoutFcs pkt.payload, rest) :=
    decodePacket_sentBytes cfg pkt.rxCtrl.withoutFcs pkt.payload rest
  have uses := (uses_decodePacket (fileHeader cfg).snaplen).mono (by decide : 1 ≤ 4)
  rcases scans_of_prefix (stable_decodePacket _) uses splits front with
    ⟨more, later, tail, rfl, rfl, breaks, scanned⟩
  have scan_eq := (scan_eq_iff uses (Nat.le_refl _)).mpr scanned
  have frames_eq := mapM_map_eq_some
    (fun pkt : WifiPromiscuousPkt =>
      decodeFrame_packetOf cfg pkt.rxCtrl.withoutFcs pkt.payload) more
  have read_eq : Reader.readPackets (fileHeader cfg)
      (whole.map fun pkt => frameOf cfg pkt.rxCtrl.withoutFcs pkt.payload)
      (more.flatMap (sentFor cfg) ++ tail) =
        some ⟨some (fileHeader cfg),
          (whole ++ more).map fun pkt => frameOf cfg pkt.rxCtrl.withoutFcs pkt.payload, tail⟩ := by
    rw [Reader.readPackets, scan_eq, List.map_append]
    simp only [frames_eq, Option.bind_eq_bind, Option.bind_some, Option.pure_def]
  refine ⟨_, read_eq, ?_⟩
  rw [← List.append_assoc, ← List.append_assoc, captureStream_append]
  exact .reading rfl breaks

/-- Nothing is read from a part of the global header. -/
theorem decodeFileHeader_eq_none (inside : input <+: (pcapHdr cfg).bytes)
    (shorter : input ≠ (pcapHdr cfg).bytes) : decodeFileHeader input = none := by
  have alone : decodeFileHeader (pcapHdr cfg).bytes = some (fileHeader cfg, []) := by
    have followed := decodeFileHeader_pcapHdr cfg []
    rwa [List.append_nil] at followed
  exact stable_decodeFileHeader.eq_none_of_prefix alone inside shorter

/-- A piece for a reader that waits for the global header. -/
theorem hasRead_of_opening (front : input ++ piece <+: captureStream cfg packets) :
    ∃ next, Reader.feed ⟨none, [], input⟩ piece = some next ∧
      HasRead cfg packets (input ++ piece) next := by
  by_cases opened : (pcapHdr cfg).bytes <+: input ++ piece
  · rcases opened with ⟨rest, input_eq⟩
    rw [← input_eq] at front ⊢
    have behind : rest <+: packets.flatMap (sentFor cfg) :=
      (List.prefix_append_right_inj _).mp front
    rcases readPackets_of_prefix [] behind with ⟨next, read, hasRead⟩
    have fed : Reader.feed ⟨none, [], input⟩ piece = some next := by
      rw [Reader.feed]
      simp only [← input_eq, decodeFileHeader_pcapHdr cfg rest]
      exact read
    exact ⟨next, fed, by simpa [captureStream] using hasRead⟩
  · -- the global header is still incomplete
    have inside : input ++ piece <+: (pcapHdr cfg).bytes :=
      (List.prefix_or_prefix_of_prefix front (List.prefix_append _ _)).resolve_right opened
    have shorter : input ++ piece ≠ (pcapHdr cfg).bytes := by
      intro same
      exact opened (same ▸ List.prefix_refl _)
    have fed : Reader.feed ⟨none, [], input⟩ piece = some ⟨none, [], input ++ piece⟩ := by
      rw [Reader.feed]
      simp only [decodeFileHeader_eq_none inside shorter]
    have length_lt := inside.length_le.lt_of_ne fun same => shorter (inside.eq_of_length same)
    rw [PcapHdr.bytes_length] at length_lt
    exact ⟨_, fed, .opening length_lt⟩

/-- One piece more. -/
theorem HasRead.feed (read : HasRead cfg packets input reader)
    (front : input ++ piece <+: captureStream cfg packets) :
    ∃ next, reader.feed piece = some next ∧ HasRead cfg packets (input ++ piece) next := by
  cases read with
  | opening short => exact hasRead_of_opening front
  | @reading whole back pending packets_eq breaks =>
      subst packets_eq
      have behind : pending ++ piece <+: back.flatMap (sentFor cfg) := by
        rw [← captureStream_append, List.append_assoc] at front
        exact (List.prefix_append_right_inj _).mp front
      rw [List.append_assoc]
      exact readPackets_of_prefix whole behind

/-- Piece after piece. -/
theorem HasRead.feedAll {pieces : List (List UInt8)} (read : HasRead cfg packets input reader)
    (front : input ++ pieces.flatten <+: captureStream cfg packets) :
    ∃ last, reader.feedAll pieces = some last ∧
      HasRead cfg packets (input ++ pieces.flatten) last := by
  induction pieces generalizing input reader with
  | nil => exact ⟨reader, rfl, by simpa using read⟩
  | cons piece pieces ih =>
      rw [List.flatten_cons, ← List.append_assoc] at front ⊢
      rcases read.feed ((List.prefix_append _ _).trans front) with ⟨next, fed, readNext⟩
      rcases ih readNext front with ⟨last, fedAll, readLast⟩
      refine ⟨last, ?_, readLast⟩
      rw [Reader.feedAll, List.foldlM_cons, fed]
      exact fedAll

/-- However a capture is cut into pieces, and wherever it breaks off, a reader has after
each piece the global header and exactly the frames whose records have come in whole. -/
theorem hasRead_of_prefix {pieces : List (List UInt8)}
    (front : pieces.flatten <+: captureStream cfg packets) :
    ∃ reader, Reader.start.feedAll pieces = some reader ∧
      HasRead cfg packets pieces.flatten reader := by
  have start : HasRead cfg packets [] Reader.start := .opening (by decide)
  have begins : [] ++ pieces.flatten <+: captureStream cfg packets := front
  exact start.feedAll begins

end WifiSniffer.Capture
