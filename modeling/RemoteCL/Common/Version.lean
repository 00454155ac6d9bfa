import RemoteCL.Common.Payload
import RemoteCL.Common.Wire
import Mathlib.Data.List.TakeDrop

/-!
# The handshake

The server opens a connection with a `VersionPacket`, and the client refuses to talk to a server
whose packet is not compatible with its own.  What is at stake is the format of payloads: it
depends on whether a build has zlib, and nothing on the wire says which format was used.

The main result, `payload_of_handshake`, is that an accepted handshake settles this for good.
-/

namespace RemoteCL

open ByteStream Wire LawfulWire

/-- What distinguishes one build of the library from another.  `idSize` is `sizeof(IDType)`. -/
structure Build where
  versionMaj : UInt8
  versionMin : UInt8
  idSize : UInt8
  zlib : Option Zlib
  async : Bool

/-- A packet annotated with the version and the capabilities of its sender. -/
structure VersionPacket where
  mVersion : Vector UInt8 64
  deriving DecidableEq

namespace VersionPacket

/-- `SWVersionSize`: number of characters used for the software version part of the packet. -/
def swVersionSize : ℕ := 4

/-- The characters that the constructor writes; the others are zero. -/
def characters (b : Build) : Bytes :=
  [b.versionMaj, b.versionMin, ' '.toUInt8, b.idSize] ++
    (if b.zlib.isSome then ['z'.toUInt8] else []) ++
    (if b.async then ['e'.toUInt8] else []) ++ ['\x00'.toUInt8]

/-- The constructor of `VersionPacket`. -/
def ofBuild (b : Build) : VersionPacket :=
  ⟨Vector.ofFn fun i => (characters b).getD i 0⟩

/-- The features that a packet announces. -/
def features (v : VersionPacket) : Bytes := v.mVersion.toList.drop swVersionSize

/-- Checks if this version packet contains the server back-connection enabled. -/
def eventEnabled (v : VersionPacket) : Bool := v.features.contains 'e'.toUInt8

/-- Checks if the compression feature is enabled. -/
def compressionEnabled (v : VersionPacket) : Bool := v.features.contains 'z'.toUInt8

/-- Checks if these versions are compatible. -/
def isCompatibleWith (this v : VersionPacket) : Bool :=
  if this.mVersion.toList.take swVersionSize ≠ v.mVersion.toList.take swVersionSize then
    false
  else if v.compressionEnabled ≠ this.compressionEnabled then
    false
  else
    -- the event stream support feature may mismatch
    true

end VersionPacket

instance : Packet VersionPacket := ⟨.version⟩

/-- The packet crosses as one block. -/
instance : Wire VersionPacket where
  enc v := v.mVersion.toList
  dec := Reader.take 64 fun b => Reader.done ⟨Vector.ofFn fun i => b.getD i 0⟩

instance : LawfulWire VersionPacket where
  reads_dec v rest := by
    have hv : (Vector.ofFn fun i : Fin 64 => v.mVersion.toList.getD i 0) = v.mVersion := by
      ext i hi
      simp [List.getD]
    show (Reader.take 64 _).run (v.mVersion.toList ++ rest) = _
    rw [Reader.run_take_append (by simp), Reader.run_done, hv]

/-- Two packets that are compatible agree on compression. -/
theorem VersionPacket.compressionEnabled_eq {this v : VersionPacket}
    (h : this.isCompatibleWith v = true) : v.compressionEnabled = this.compressionEnabled := by
  rw [isCompatibleWith] at h
  split at h
  · exact absurd h Bool.false_ne_true
  · split at h
    · exact absurd h Bool.false_ne_true
    · exact not_not.mp ‹_›

/-- The features of a build stand behind the software version, and zeros behind them. -/
theorem VersionPacket.features_ofBuild (b : Build) :
    (ofBuild b).features =
      (List.ofFn fun i : Fin 64 => (characters b).getD i 0).drop swVersionSize := by
  rw [features, ofBuild, Vector.toList_ofFn]

/-- A packet announces compression exactly if its build has zlib: the version bytes are not
searched, and no other feature has the same letter. -/
theorem VersionPacket.compressionEnabled_ofBuild (b : Build) :
    (ofBuild b).compressionEnabled = b.zlib.isSome := by
  rw [compressionEnabled, features_ofBuild, characters, swVersionSize]
  cases b.zlib.isSome <;> cases b.async <;> rfl

/-- Two builds that are compatible write and read the same payload format. -/
theorem sameFormat_of_isSome_eq {zw zr : Option Zlib} (h : zw.isSome = zr.isSome)
    (hinv : ∀ w ∈ zw, ∀ r ∈ zr, r.Inverts w) : SameFormat zw zr := by
  cases zw with
  | none =>
    cases zr with
    | none => exact .plain
    | some r => exact absurd h Bool.false_ne_true
  | some w =>
    cases zr with
    | none => exact absurd h.symm Bool.false_ne_true
    | some r => exact .zlib (hinv w rfl r rfl)

/-! ## An accepted handshake -/

/-- The client of build `client` has read the version packet of a server of build `server` off
the wire, and accepts it. -/
def Accepted (client server : Build) : Prop :=
  ∃ v s rest, (dec : Reader VersionPacket).run (enc (VersionPacket.ofBuild server) ++ s) =
    some (v, rest) ∧ (VersionPacket.ofBuild client).isCompatibleWith v = true

/-- `uncompress` undoes `compress`, whichever of the two builds they are linked into. -/
def ZlibInverts (client server : Build) : Prop :=
  ∀ zc ∈ client.zlib, ∀ zs ∈ server.zlib, zc.Inverts zs ∧ zs.Inverts zc

/-- What is read off the wire is the packet that was sent. -/
theorem Accepted.compatible {client server : Build} (h : Accepted client server) :
    (VersionPacket.ofBuild client).isCompatibleWith (VersionPacket.ofBuild server) = true := by
  obtain ⟨v, s, rest, hv, hc⟩ := h
  have hsent := reads_dec (VersionPacket.ofBuild server) s
  rw [hv, Option.some.injEq, Prod.mk.injEq] at hsent
  rwa [hsent.1] at hc

theorem Accepted.isSome_eq {client server : Build} (h : Accepted client server) :
    client.zlib.isSome = server.zlib.isSome := by
  have hc := VersionPacket.compressionEnabled_eq h.compatible
  rw [VersionPacket.compressionEnabled_ofBuild, VersionPacket.compressionEnabled_ofBuild] at hc
  exact hc.symm

/-- From the client to the server. -/
theorem Accepted.sameFormat_up {client server : Build} (h : Accepted client server)
    (hz : ZlibInverts client server) : SameFormat client.zlib server.zlib :=
  sameFormat_of_isSome_eq h.isSome_eq fun zc hc zs hs => (hz zc hc zs hs).2

/-- From the server to the client. -/
theorem Accepted.sameFormat_down {client server : Build} (h : Accepted client server)
    (hz : ZlibInverts client server) : SameFormat server.zlib client.zlib :=
  sameFormat_of_isSome_eq h.isSome_eq.symm fun zs hs zc hc => (hz zc hc zs hs).1

/-- **An accepted handshake guarantees a common payload format**: in either direction, either
reader undoes either writer, for every array that fits the length type. -/
theorem payload_of_handshake (client server : Build) (h : Accepted client server)
    (hz : ZlibInverts client server) (sz : SizeT) (data rest : Bytes)
    (hlen : data.length < sz.range) (w : PayloadWriter) (r : PayloadReader) :
    (r.decode server.zlib sz).run (w.encode client.zlib sz data ++ rest) = some (data, rest) ∧
      (r.decode client.zlib sz).run (w.encode server.zlib sz data ++ rest) =
        some (data, rest) :=
  ⟨reads_payload (h.sameFormat_up hz) hlen w r rest,
    reads_payload (h.sameFormat_down hz) hlen w r rest⟩

/-- Two builds with zlib, of which one has an event stream, exchange a small payload: it is below
the threshold, so zlib is not asked. -/
theorem payload_of_handshake_small :
    let zlib : Zlib := ⟨fun _ => none, fun c n => c.take n⟩
    let server : Build := ⟨1, 1, 2, some zlib, true⟩
    let client : Build := ⟨1, 1, 2, some zlib, false⟩
    (PayloadReader.payloadInto.decode server.zlib .uint8).run
        (PayloadWriter.payloadPtr.encode client.zlib .uint8 [1, 2, 3] ++ [9]) =
      some ([1, 2, 3], [9]) ∧
    (PayloadReader.payloadInto.decode client.zlib .uint8).run
        (PayloadWriter.payloadPtr.encode server.zlib .uint8 [1, 2, 3] ++ [9]) =
      some ([1, 2, 3], [9]) := by
  intro zlib server client
  have hinv : zlib.Inverts zlib := fun data c h => by cases h
  have hz : ZlibInverts client server := fun zc hc zs hs => by
    cases hc
    cases hs
    exact ⟨hinv, hinv⟩
  have hacc : Accepted client server :=
    ⟨_, [], _, reads_dec (VersionPacket.ofBuild server) [], by decide⟩
  exact payload_of_handshake client server hacc hz .uint8 [1, 2, 3] [9] (by decide)
    .payloadPtr .payloadInto

end RemoteCL
