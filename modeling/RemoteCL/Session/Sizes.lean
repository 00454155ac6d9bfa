import RemoteCL.Session.RawValues
import RemoteCL.Theory.Asking

/-!
# Sizes

A `std::size_t` need not have the same width on both sides, so sizes are translated: they cross the
wire as numbers of 64 bits.  Which parameters are sizes each side knows from a list of its own.

A single size arrives, as far as it has room in the `std::size_t` of the client, if both lists have
it; a server for an OpenCL before 2.0 lacks four.  Three sizes do not.  They are sent as a payload,
for which the server states the number of the sizes and not of their bytes, so three bytes are sent.
The client does not mind that there are not more, and reads the other ones out of an array that it
has not initialised.  `numbers_arrive_iff` puts this together.
-/

namespace RemoteCL

open ByteStream Conversation Wire LawfulWire Client

/-! ## Numbers in memory -/

/-- The numbers that `n` words of `w` bytes spell. -/
def numbersIn (w : ℕ) : ℕ → Bytes → List ℕ
  | 0, _ => []
  | n + 1, data => leValue (data.take w) :: numbersIn w n (data.drop w)

theorem leValue_take (b : Bytes) (n : ℕ) : leValue (b.take n) = leValue b % 256 ^ n := by
  by_cases h : n ≤ b.length
  · have hlen : (b.take n).length = n := List.length_take_of_le h
    have hlt := leValue_lt (b.take n)
    rw [hlen] at hlt
    conv_rhs => rw [← List.take_append_drop n b, leValue_append, hlen, Nat.add_mul_mod_self_left,
      Nat.mod_eq_of_lt hlt]
  · have hle : b.length ≤ n := (not_le.mp h).le
    have hlt : leValue b < 256 ^ n := (leValue_lt b).trans_le (Nat.pow_le_pow_right (by decide) hle)
    rw [List.take_of_length_le hle, Nat.mod_eq_of_lt hlt]

/-- A number is what its bytes spell, as far as it has room. -/
theorem leValue_size (H : Host) (n : UInt64) :
    leValue (H.size n) = n.toNat % 256 ^ H.sizeofSize := by
  have hvalue : leValue (enc n) = n.toNat := leValue_leBytes_of_lt n.toNat_lt
  rw [Host.size, leValue_take, hvalue]

theorem length_size {H : Host} (hH : H.sizeofSize ≤ 8) (n : UInt64) :
    (H.size n).length = H.sizeofSize := by
  have henc : (enc n).length = 8 := length_leBytes 8 _
  rw [Host.size, List.length_take, henc, min_eq_left hH]

theorem length_flatMap_size {H : Host} (hH : H.sizeofSize ≤ 8) (ns : List UInt64) :
    (ns.flatMap H.size).length = H.sizeofSize * ns.length := by
  induction ns with
  | nil => rfl
  | cons n ns ih =>
    rw [List.flatMap_cons, List.length_append, length_size hH, ih, List.length_cons, Nat.mul_succ,
      Nat.add_comm]

/-- Sizes that have been stored one after the other. -/
theorem numbersIn_flatMap {H : Host} (hH : H.sizeofSize ≤ 8) (ns : List UInt64) :
    numbersIn H.sizeofSize ns.length (ns.flatMap H.size) =
      ns.map fun n => n.toNat % 256 ^ H.sizeofSize := by
  induction ns with
  | nil => rfl
  | cons n ns ih =>
    rw [List.flatMap_cons, List.length_cons, numbersIn, List.take_left' (length_size hH n),
      List.drop_left' (length_size hH n), ih, leValue_size, List.map_cons]

/-! ## The queries -/

/-- A query for sizes. -/
inductive SizeQuery where
  | clGetDeviceInfo (device : Handle) (param_name : UInt32)
  | clGetKernelWorkGroupInfo (kernel device : Handle) (param_name : UInt32)

namespace SizeQuery

def call (C : Build) (H : Host) (args : InfoArgs) : SizeQuery → ClientM Ret
  | clGetDeviceInfo device param => Client.clGetDeviceInfo C H (some device) param args
  | clGetKernelWorkGroupInfo kernel device param =>
    Client.clGetKernelWorkGroupInfo C H (some kernel) (some device) param args

def question (t : ServerState) : SizeQuery → InfoQuery
  | clGetDeviceInfo device param => .clGetDeviceInfo (objectAt t.mObjects (GetID device)) param
  | clGetKernelWorkGroupInfo kernel device param =>
    .clGetKernelWorkGroupInfo (objectAt t.mObjects (GetID kernel))
      (objectAt t.mObjects (GetID device)) param

/-- The query is for three sizes. -/
def Triple : SizeQuery → Prop
  | clGetDeviceInfo _ param => param = CL_DEVICE_MAX_WORK_ITEM_SIZES
  | clGetKernelWorkGroupInfo _ _ param => param = CL_KERNEL_COMPILE_WORK_GROUP_SIZE

/-- The query is for one size. -/
def Single : SizeQuery → Prop
  | clGetDeviceInfo _ param => param ∈ deviceSizeParams
  | clGetKernelWorkGroupInfo _ _ param =>
    param = CL_KERNEL_LOCAL_MEM_SIZE ∨ param = CL_KERNEL_PREFERRED_WORK_GROUP_SIZE_MULTIPLE ∨
      param = CL_KERNEL_WORK_GROUP_SIZE

/-- As many sizes as the query is for. -/
def Counts (q : SizeQuery) (values : List UInt64) : Prop :=
  q.Triple ∧ values.length = 3 ∨ q.Single ∧ values.length = 1

/-- The server has the parameter in its list. -/
def Translated (B : ServerBuild) : SizeQuery → Prop
  | clGetDeviceInfo _ param => 200 ≤ B.clTarget ∨ param ∉ ServerInstance.deviceSizeParams20
  | clGetKernelWorkGroupInfo _ _ _ => True

/-- The server translates a parameter that the client translates if it is in the list of the
server. -/
theorem translated_iff {B : ServerBuild} {device : Handle} {param : UInt32}
    (h : param ∈ deviceSizeParams) : (clGetDeviceInfo device param).Translated B ↔
      param ∈ ServerInstance.deviceSizeParams ∨
        (200 ≤ B.clTarget ∧ param ∈ ServerInstance.deviceSizeParams20) := by
  have hlists : deviceSizeParams.all (fun p => decide (p ∈ ServerInstance.deviceSizeParams ↔
      p ∉ ServerInstance.deviceSizeParams20)) = true := by decide
  rw [Translated, of_decide_eq_true (List.all_eq_true.mp hlists param h)]
  by_cases h20 : param ∈ ServerInstance.deviceSizeParams20 <;> simp [h20]

/-- The width in which the function stores one size. -/
def width (H : Host) : SizeQuery → ℕ
  | clGetDeviceInfo _ _ => 8
  | clGetKernelWorkGroupInfo _ _ _ => H.sizeofSize

end SizeQuery

/-- A driver that has a value. -/
structure Has (D : Driver) (q : InfoQuery) (v : Bytes) : Prop where
  answers : ∀ log n, n = 0 ∨ v.length ≤ n → (D log (.info q n)).err = CL_SUCCESS
  size : ∀ log n, (D log (.info q n)).err = CL_SUCCESS → (D log (.info q n)).size = some v.length
  data : ∀ log n, (D log (.info q n)).err = CL_SUCCESS → v.length ≤ n → (D log (.info q n)).data = v

theorem Has.holds {D : Driver} {q : InfoQuery} {v : Bytes} (h : Has D q v) : Holds D q v where
  size := h.size
  data := h.data
  steady := fun _ log' _ n' _ hn' => h.answers log' n' hn'

/-- The application has got numbers, of the width of its `std::size_t`: it has been told how many
bytes they are, and finds them in its memory if there is room. -/
structure GotNumbers (w : ℕ) (args : InfoArgs) (values : List UInt64) (s s' : ClientState) :
    Prop where
  size : sizesReported s s' = if args.param_value_size_ret then [w * values.length] else []
  value : args.param_value = true → w * values.length ≤ args.param_value_size →
    ∃ data, valuesCopied s s' = [data] ∧
      numbersIn w values.length data = values.map UInt64.toNat

/-- However the query is made, and whatever is in the array that is not initialised, it succeeds and
the application gets the numbers of the driver. -/
def NumbersArrive (D : Driver) (B : ServerBuild) (C : Build) (w : ℕ) (s : ClientState)
    (t : ServerState) (q : SizeQuery) (values : List UInt64) : Prop :=
  ∀ (sizes : Bytes) (args : InfoArgs), sizes.length = 24 →
    Settles D.environment (ServerInstance.serve B)
      (Finishes .socketError fun r s' => r = .code CL_SUCCESS ∧ GotNumbers w args values s s')
      (start B (q.call C ⟨w, sizes⟩ args) s t [])

/-- What the client takes for a size that the server has not translated: the first eight bytes of a
payload. -/
def mistaken (B : ServerBuild) (n : UInt64) : UInt64 :=
  wordAt (encPayloadPtr B.zlib .uint32 (enc n))

/-- The size that is mistaken for itself. -/
def mistakenSelf (B : ServerBuild) : UInt64 :=
  if B.zlib.isNone then 0x800000008 else 0x800000000

/-- The query is for one size, which both sides translate.  (One that the server does not translate
may be the one that is mistaken for itself.)  A size of a device is not narrowed to the
`std::size_t` of the client, so that has to have eight bytes. -/
def SizeQuery.Preserved (B : ServerBuild) (w : ℕ) (q : SizeQuery) (values : List UInt64) : Prop :=
  q.Single ∧ w = q.width ⟨w, []⟩ ∧ (q.Translated B ∨ values = [mistakenSelf B])

theorem wordAt_append {a b : Bytes} (ha : a.length = 8) :
    wordAt (a ++ b) = UInt64.ofNat (leValue a) := by
  rw [wordAt, List.take_left' ha]

/-- Eight bytes are the number that they spell. -/
theorem enc_wordAt {w : Bytes} (hw : w.length = 8) : enc (wordAt w) = w := by
  have hlt : leValue w < UInt64.size := by
    have hle := leValue_lt w
    rwa [hw] at hle
  have hword : (wordAt w).toNat = leValue w := by
    rw [wordAt, ← hw, List.take_length]
    exact UInt64.toNat_ofNat_of_lt' hlt
  show leBytes 8 (wordAt w).toNat = w
  rw [hword, ← hw, leBytes_leValue]

/-- What is sent for a size that is not translated starts with the length of the size and one half
of it, or with the two sizes of the payload. -/
theorem exists_encPayloadPtr_enc (B : ServerBuild) (n : UInt64) :
    ∃ a rest, encPayloadPtr B.zlib .uint32 (enc n) = a ++ rest ∧ a.length = 8 ∧
      leValue a =
        if B.zlib.isNone then 8 + 4294967296 * (n.toNat % 4294967296) else 0x800000000 := by
  have hlen : (enc n).length = 8 := length_leBytes 8 _
  have hmod : (enc n).length % SizeT.range .uint32 = 8 := by
    rw [hlen]
    rfl
  cases B.zlib with
  | none =>
    have hpow : 256 ^ 4 = 4294967296 := rfl
    have hvalue : leValue (enc n) = n.toNat := leValue_leBytes_of_lt n.toNat_lt
    have hhalf : leValue ((enc n).take 4) = n.toNat % 4294967296 := by
      rw [leValue_take, hvalue, hpow]
    have hfour : ((enc n).take 4).length = 4 := by
      rw [List.length_take, hlen]
      rfl
    have hsize : (encSize .uint32 8).length = 4 := length_leBytes 4 8
    refine ⟨encSize .uint32 8 ++ (enc n).take 4, (enc n).drop 4, ?_, ?_, ?_⟩
    · rw [encPayloadPtr, hmod, ← hlen, List.take_length, hlen, List.append_assoc,
        List.take_append_drop]
    · rw [List.length_append, hsize, hfour]
    · rw [leValue_append, hhalf, hsize, hpow]
      rfl
  | some z =>
    refine ⟨encSize .uint32 0 ++ encSize .uint32 8, enc n, ?_, rfl, rfl⟩
    simp only [encPayloadPtr, hmod]
    rw [if_neg fun h => absurd h.1 (by decide), ← hlen, List.take_length]

theorem toNat_mistaken (B : ServerBuild) (n : UInt64) :
    (mistaken B n).toNat =
      if B.zlib.isNone then 8 + 4294967296 * (n.toNat % 4294967296) else 0x800000000 := by
  obtain ⟨a, rest, hsent, hlen, hspell⟩ := exists_encPayloadPtr_enc B n
  have hlt := leValue_lt a
  rw [hlen] at hlt
  rw [mistaken, hsent, wordAt_append hlen, ← hspell]
  exact UInt64.toNat_ofNat_of_lt' hlt

/-- One size is mistaken for itself. -/
theorem mistaken_eq_self_iff {B : ServerBuild} {n : UInt64} :
    mistaken B n = n ↔ n = mistakenSelf B := by
  rw [← UInt64.toNat_inj, ← UInt64.toNat_inj, toNat_mistaken, mistakenSelf]
  have hlt : n.toNat < 18446744073709551616 := n.toNat_lt
  cases B.zlib with
  | none =>
    have hself : (0x800000008 : UInt64).toNat = 34359738376 := rfl
    rw [Option.isNone_none, if_pos rfl, if_pos rfl, hself]
    omega
  | some z =>
    have hself : (0x800000000 : UInt64).toNat = 34359738368 := rfl
    rw [Option.isNone_some, if_neg Bool.false_ne_true, if_neg Bool.false_ne_true, hself]
    exact eq_comm

/-! ## What is stored -/

/-- The application has been told of some bytes, and has got them if there is room for them. -/
structure StoresBytes (args : InfoArgs) (data : Bytes) (s s' : ClientState) : Prop where
  size : sizesReported s s' = if args.param_value_size_ret then [data.length] else []
  value : args.param_value = true →
    valuesCopied s s' = if data.length ≤ args.param_value_size then [data] else []

/-- Bytes are numbers if there are as many of them as there should be, and they spell them. -/
def Spell (w : ℕ) (data : Bytes) (values : List UInt64) : Prop :=
  data.length = w * values.length ∧ numbersIn w values.length data = values.map UInt64.toNat

theorem Spell.gotNumbers {w : ℕ} {args : InfoArgs} {data : Bytes} {values : List UInt64}
    {s s' : ClientState} (h : Spell w data values) (hs : StoresBytes args data s s') :
    GotNumbers w args values s s' where
  size := by rw [hs.size, h.1]
  value := by
    intro hvalue hroom
    refine ⟨data, ?_, h.2⟩
    rw [hs.value hvalue, if_pos (h.1.trans_le hroom)]

/-- An application with room enough sees all of it. -/
theorem GotNumbers.spell {w : ℕ} {data : Bytes} {values : List UInt64} {s s' : ClientState}
    (h : GotNumbers w ⟨w * values.length, true, true⟩ values s s')
    (hs : StoresBytes ⟨w * values.length, true, true⟩ data s s') : Spell w data values := by
  have hsize := hs.size.symm.trans h.size
  rw [if_pos rfl, if_pos rfl, List.cons.injEq] at hsize
  obtain ⟨data', hcopied, hvalues⟩ := h.value rfl le_rfl
  have hsame := (hs.value rfl).symm.trans hcopied
  rw [if_pos hsize.1.le, List.cons.injEq] at hsame
  exact ⟨hsize.1, hsame.1 ▸ hvalues⟩

theorem storesBytes_withAnswer (args : InfoArgs) (data : Bytes) (s : ClientState) :
    StoresBytes args data s (withAnswer false args s data) where
  size := sizesReported_withAnswer
  value := by
    intro hvalue
    rw [valuesCopied_withAnswer, hvalue, Bool.true_and, Bool.false_or, if_neg Bool.false_ne_true]
    simp only [decide_eq_true_eq]

/-- The state of a client that has stored a value. -/
def withValue (args : InfoArgs) (s : ClientState) (data : Bytes) : ClientState :=
  (s.stored (decide (data.length ≤ args.param_value_size)) (.param_value data)).stored
    args.param_value_size_ret (.param_value_size_ret data.length)

theorem storesBytes_withValue {args : InfoArgs} {data : Bytes} {s : ClientState} :
    StoresBytes args data s (withValue args s data) := by
  have hnew := ((Extends.refl s).stored (decide (data.length ≤ args.param_value_size))
    (.param_value data)).stored args.param_value_size_ret (.param_value_size_ret data.length)
  by_cases hroom : data.length ≤ args.param_value_size
  · constructor
    · rw [sizesReported, withValue, hnew.eventsSince, decide_eq_true hroom]
      cases args.param_value_size_ret <;> rfl
    · intro _
      rw [valuesCopied, withValue, hnew.eventsSince, decide_eq_true hroom, if_pos hroom]
      cases args.param_value_size_ret <;> rfl
  · constructor
    · rw [sizesReported, withValue, hnew.eventsSince, decide_eq_false hroom]
      cases args.param_value_size_ret <;> rfl
    · intro _
      rw [valuesCopied, withValue, hnew.eventsSince, decide_eq_false hroom, if_neg hroom]
      cases args.param_value_size_ret <;> rfl

/-! ## What becomes of the queries -/

/-- What the application is given for some sizes. -/
inductive SizeQuery.Received (B : ServerBuild) (H : Host) : SizeQuery → List UInt64 → Bytes → Prop
  | ofDevice {device : Handle} {param : UInt32} (n : UInt64)
      (hq : (SizeQuery.clGetDeviceInfo device param).Single)
      (ht : (SizeQuery.clGetDeviceInfo device param).Translated B) :
      Received B H (.clGetDeviceInfo device param) [n] (enc n)
  | ofKernel {kernel device : Handle} {param : UInt32} (n : UInt64)
      (hq : (SizeQuery.clGetKernelWorkGroupInfo kernel device param).Single) :
      Received B H (.clGetKernelWorkGroupInfo kernel device param) [n] (H.size n)
  | mistaken {device : Handle} {param : UInt32} (n : UInt64)
      (hq : (SizeQuery.clGetDeviceInfo device param).Single)
      (ht : ¬ (SizeQuery.clGetDeviceInfo device param).Translated B) :
      Received B H (.clGetDeviceInfo device param) [n] (enc (mistaken B n))
  | three {q : SizeQuery} (l m n : UInt64) (hq : q.Triple) :
      Received B H q [l, m, n]
        ((words 3 (storeInto H.sizes ((wordBytes [l, m, n]).take 3))).flatMap H.size)

section Calls

variable {D : Driver} {B : ServerBuild} {C : Build} {H : Host} {s : ClientState} {t : ServerState}
variable {args : InfoArgs} {F : CallConfig (List Asked) → Prop}
variable (hF : Stable D.environment (ServerInstance.serve B) F)
include hF

/-- Eight bytes have arrived that are taken for a number. -/
theorem settles_number {badAlloc others : Int32} (f : UInt64 → Bytes) {w rest : Bytes}
    (hw : w.length = 8) {log : List Asked} :
    Settles D.environment (ServerInstance.serve B) F
        ⟨⟨catching badAlloc others (PacketStream.readPacket (SimplePacket .payload UInt64) >>=
            fun value => storeValue args (f value.mData) >>= fun _ => pure (.code CL_SUCCESS)),
            s, []⟩,
          ⟨ServerInstance.serve B, t, []⟩, [], PacketStream.frame .payload (w ++ rest), log⟩ ↔
      Settles D.environment (ServerInstance.serve B) F
        ⟨⟨.ret (.code CL_SUCCESS), withValue args s (f (wordAt w)), []⟩,
          ⟨ServerInstance.serve B, t, []⟩, [], rest, log⟩ := by
  have hK := context_catching badAlloc others
  have hframe : PacketStream.frame .payload (w ++ rest) =
      packet (⟨wordAt w⟩ : SimplePacket .payload UInt64) ++ rest := by
    conv_lhs => rw [← enc_wordAt hw]
    rfl
  rw [hframe]
  refine (settles_client_meets_packet hF hK (by decide)).trans ?_
  rw [storeValue, bind_assoc]
  exact (settles_client_store hF hK).trans (settles_client_store hF hK)

/-- One size that the server translates. -/
theorem settles_one {badAlloc others : Int32} (f : UInt64 → Bytes) {q : InfoQuery} {n : UInt64}
    (hv : Has D q (wordBytes [n]))
    (h : ∀ s' rest log, StoresBytes args (f n) s s' →
      Settles D.environment (ServerInstance.serve B) F
        ⟨⟨.ret (.code CL_SUCCESS), s', []⟩, ⟨ServerInstance.serve B, t, []⟩, [], rest, log⟩) :
    Settles D.environment (ServerInstance.serve B) F
      ⟨⟨catching badAlloc others (PacketStream.readPacket (SimplePacket .payload UInt64) >>=
          fun value => storeValue args (f value.mData) >>= fun _ => pure (.code CL_SUCCESS)),
          s, []⟩,
        ⟨ServerInstance.iteration (ServerInstance.replySize q >>= fun _ => pure true), t, []⟩,
        [], [], []⟩ := by
  have hlen : (wordBytes [n]).length = 8 := length_wordBytes [n]
  have herr := hv.answers [] 8 (Or.inr hlen.le)
  have hdata := hv.data [] 8 herr hlen.le
  refine (Driver.settles_ask hF context_handler).mpr ?_
  simp only [herr, hdata, ne_eq, not_true, if_false, storeInto_zeros hlen]
  refine (settles_replies hF).mpr ?_
  have hword : wordAt (wordBytes [n]) = n := wordAt_enc n []
  have hsent : PacketStream.frame (Packet.mType (SimplePacket .payload UInt64))
      (enc (⟨wordAt (wordBytes [n])⟩ : SimplePacket .payload UInt64)) =
        PacketStream.frame .payload (enc n ++ []) := by
    rw [hword, List.append_nil]
    rfl
  rw [List.nil_append, List.nil_append, hsent]
  have henc : wordAt (enc n) = n := by rw [← List.append_nil (enc n), wordAt_enc]
  refine (settles_number hF f (w := enc n) (length_leBytes 8 _)).mpr (h _ _ _ ?_)
  rw [henc]
  exact storesBytes_withValue

/-- One size that the server does not translate. -/
theorem settles_mistaken {badAlloc others : Int32} {q : InfoQuery} {n : UInt64}
    (hv : Has D q (wordBytes [n]))
    (h : ∀ s' rest log, StoresBytes args (enc (mistaken B n)) s s' →
      Settles D.environment (ServerInstance.serve B) F
        ⟨⟨.ret (.code CL_SUCCESS), s', []⟩, ⟨ServerInstance.serve B, t, []⟩, [], rest, log⟩) :
    Settles D.environment (ServerInstance.serve B) F
      ⟨⟨catching badAlloc others (awaitValue UInt64 args), s, []⟩,
        ⟨ServerInstance.iteration (ServerInstance.replyRaw B .uint32 false q >>= fun _ =>
          pure true), t, []⟩, [], [], []⟩ := by
  have hlen : (wordBytes [n]).length = 8 := length_wordBytes [n]
  refine settles_server_wp hF context_handler (H := fun _ _ _ => False) (fun _ _ _ _ h => h.elim)
    (Prog.wp_mono ?_ (ServerInstance.wp_replyRaw hv.holds .uint32 false))
  rintro r t' o u log ⟨rfl, rfl, ⟨err, herr, hrefused, -⟩ | ⟨hlong, -⟩ | ⟨-, -, rfl, rfl⟩⟩
  · exact absurd (hv.answers [] 0 (Or.inl rfl)) hrefused
  · rcases hlong with hrefused | hlong
    · exact absurd (hv.answers [] 0 (Or.inl rfl)) hrefused
    · rw [hlen] at hlong
      exact absurd hlong (by decide)
  · refine (settles_handles hF).mpr ?_
    obtain ⟨a, rest, hsent, ha, -⟩ := exists_encPayloadPtr_enc B n
    have hone : wordBytes [n] = enc n := List.append_nil (enc n)
    have hmistaken : mistaken B n = wordAt a := by
      rw [mistaken, hsent, wordAt_append ha, wordAt, ← ha, List.take_length]
    rw [hone, hsent]
    refine (settles_number hF enc ha).mpr (h _ _ _ ?_)
    rw [hmistaken]
    exact storesBytes_withValue

/-- Three sizes. -/
theorem settles_three {badAlloc others : Int32} (hz : SameFormat B.zlib C.zlib)
    (hH : H.sizeofSize ≤ 8) {q : InfoQuery} {l m n : UInt64} (hv : Has D q (wordBytes [l, m, n]))
    (h : ∀ s' rest log, StoresBytes args
        ((words 3 (storeInto H.sizes ((wordBytes [l, m, n]).take 3))).flatMap H.size) s s' →
      Settles D.environment (ServerInstance.serve B) F
        ⟨⟨.ret (.code CL_SUCCESS), s', []⟩, ⟨ServerInstance.serve B, t, []⟩, [], rest, log⟩) :
    Settles D.environment (ServerInstance.serve B) F
      ⟨⟨catching badAlloc others (awaitSizes C H args), s, []⟩,
        ⟨ServerInstance.iteration (ServerInstance.replySizes B q >>= fun _ => pure true), t, []⟩,
        [], [], []⟩ := by
  have hK := context_catching badAlloc others
  have hlen : (wordBytes [l, m, n]).length = 24 := length_wordBytes [l, m, n]
  have herr := hv.answers [] 24 (Or.inr hlen.le)
  have hdata := hv.data [] 24 herr hlen.le
  refine (Driver.settles_ask hF context_handler).mpr ?_
  simp only [herr, hdata, ne_eq, not_true, if_false, storeInto_zeros hlen]
  refine (settles_replies hF).mpr ?_
  have hthree : ((wordBytes [l, m, n]).take 3).length = 3 := List.length_take_of_le (by omega)
  have hfits : ((wordBytes [l, m, n]).take 3).length < SizeT.range .uint8 :=
    hthree.trans_lt (by decide)
  have hreads := reads_payload hz hfits .payloadPtr .payloadInto
  rw [List.nil_append, List.nil_append, ← List.append_nil (PacketStream.frame _ _)]
  refine (settles_client_meets hF hK hreads (by decide)).mpr ?_
  refine (settles_client_store hF hK).mpr ((settles_client_store hF hK).mpr (h _ _ _ ?_))
  have hstores := storesBytes_withAnswer args
    ((words 3 (storeInto H.sizes ((wordBytes [l, m, n]).take 3))).flatMap H.size) s
  rwa [withAnswer, length_flatMap_size hH, length_words, mul_comm H.sizeofSize] at hstores

omit hF in
/-- **What the application is given**, and that it is told that the query has succeeded. -/
theorem SizeQuery.exists_received (hz : SameFormat B.zlib C.zlib) (hH : H.sizeofSize ≤ 8)
    {q : SizeQuery} {values : List UInt64} (hcounts : q.Counts values)
    (hv : Has D (q.question t) (wordBytes values)) :
    ∃ data, q.Received B H values data ∧ ∀ (args : InfoArgs) (F : CallConfig (List Asked) → Prop),
      Stable D.environment (ServerInstance.serve B) F →
        (∀ s' rest log, StoresBytes args data s s' →
          Settles D.environment (ServerInstance.serve B) F
            ⟨⟨.ret (.code CL_SUCCESS), s', []⟩, ⟨ServerInstance.serve B, t, []⟩, [], rest, log⟩) →
          Settles D.environment (ServerInstance.serve B) F (start B (q.call C H args) s t []) := by
  rcases hcounts with ⟨htriple, hlen⟩ | ⟨hsingle, hlen⟩
  · obtain ⟨l, m, n, rfl⟩ := List.length_eq_three.mp hlen
    refine ⟨_, .three l m n htriple, fun args F hF h => ?_⟩
    cases q with
    | clGetDeviceInfo device param =>
      have hparam : param = CL_DEVICE_MAX_WORK_ITEM_SIZES := htriple
      have hobjects : ¬(param = CL_DEVICE_PLATFORM ∨ param = CL_DEVICE_PARENT_DEVICE) := by
        rw [hparam]
        decide
      have hclient : param ∉ deviceSizeParams := by
        rw [hparam]
        decide
      have hserver : ¬(param ∈ ServerInstance.deviceSizeParams ∨
          (200 ≤ B.clTarget ∧ param ∈ ServerInstance.deviceSizeParams20)) := fun hmem =>
        hclient (mem_deviceSizeParams (hmem.imp_right And.right))
      simp only [call, Client.clGetDeviceInfo, if_neg (not_or.mp hobjects).1,
        if_neg (not_or.mp hobjects).2, if_neg hclient, if_pos hparam]
      refine (settles_asks hF (by decide) rfl).mpr ((settles_server_get hF context_handler).mpr ?_)
      simp only [if_neg hobjects, if_neg hserver, if_pos hparam]
      exact settles_three hF hz hH hv h
    | clGetKernelWorkGroupInfo kernel device param =>
      have hparam : param = CL_KERNEL_COMPILE_WORK_GROUP_SIZE := htriple
      simp only [call, Client.clGetKernelWorkGroupInfo, if_pos hparam]
      refine (settles_asks hF (by decide) rfl).mpr ((settles_server_get hF context_handler).mpr
        ((settles_server_get hF context_handler).mpr ?_))
      simp only [if_pos hparam]
      exact settles_three hF hz hH hv h
  · obtain ⟨n, rfl⟩ := List.length_eq_one_iff.mp hlen
    cases q with
    | clGetDeviceInfo device param =>
      have hparam : param ∈ deviceSizeParams := hsingle
      have hobjects : ¬(param = CL_DEVICE_PLATFORM ∨ param = CL_DEVICE_PARENT_DEVICE) := by
        rintro (rfl | rfl) <;> exact absurd hparam (by decide)
      have hsizes : param ≠ CL_DEVICE_MAX_WORK_ITEM_SIZES := by
        rintro rfl
        exact absurd hparam (by decide)
      by_cases ht : (SizeQuery.clGetDeviceInfo device param).Translated B
      · have hserver := (translated_iff hparam).mp ht
        refine ⟨_, .ofDevice n hsingle ht, fun args F hF h => ?_⟩
        simp only [call, Client.clGetDeviceInfo, if_neg (not_or.mp hobjects).1,
          if_neg (not_or.mp hobjects).2, if_pos hparam]
        refine (settles_asks hF (by decide) rfl).mpr
          ((settles_server_get hF context_handler).mpr ?_)
        simp only [if_neg hobjects, if_pos hserver]
        exact settles_one hF enc hv h
      · have hserver := mt (translated_iff hparam).mpr ht
        refine ⟨_, .mistaken n hsingle ht, fun args F hF h => ?_⟩
        simp only [call, Client.clGetDeviceInfo, if_neg (not_or.mp hobjects).1,
          if_neg (not_or.mp hobjects).2, if_pos hparam]
        refine (settles_asks hF (by decide) rfl).mpr
          ((settles_server_get hF context_handler).mpr ?_)
        simp only [if_neg hobjects, if_neg hserver, if_neg hsizes]
        exact settles_mistaken hF hv h
    | clGetKernelWorkGroupInfo kernel device param =>
      have hparam : param = CL_KERNEL_LOCAL_MEM_SIZE ∨
          param = CL_KERNEL_PREFERRED_WORK_GROUP_SIZE_MULTIPLE ∨
            param = CL_KERNEL_WORK_GROUP_SIZE :=
        hsingle
      have hsizes : param ≠ CL_KERNEL_COMPILE_WORK_GROUP_SIZE := by
        rintro rfl
        exact absurd hparam (by decide)
      refine ⟨_, .ofKernel n hsingle, fun args F hF h => ?_⟩
      simp only [call, Client.clGetKernelWorkGroupInfo, if_neg hsizes, if_pos hparam]
      refine (settles_asks hF (by decide) rfl).mpr ((settles_server_get hF context_handler).mpr
        ((settles_server_get hF context_handler).mpr ?_))
      simp only [if_neg hsizes, if_pos hparam]
      exact settles_one hF H.size hv h

omit hF in
theorem SizeQuery.Received.unique {q : SizeQuery} {values : List UInt64} {data data' : Bytes}
    (h : q.Received B H values data) (h' : q.Received B H values data') : data = data' := by
  cases h with
  | ofDevice n hq ht =>
    cases h' with
    | ofDevice => rfl
    | mistaken _ _ ht' => exact absurd ht ht'
  | ofKernel n hq =>
    cases h'
    rfl
  | mistaken n hq ht =>
    cases h' with
    | ofDevice _ _ ht' => exact absurd ht' ht
    | mistaken => rfl
  | three l m n hq =>
    cases h'
    rfl

omit hF in
/-- Numbers arrive if what the application is given spells them. -/
theorem numbersArrive_iff_spell (hz : SameFormat B.zlib C.zlib) {w : ℕ} (hw : w ≤ 8)
    {q : SizeQuery} {values : List UInt64} (hcounts : q.Counts values)
    (hv : Has D (q.question t) (wordBytes values)) :
    NumbersArrive D B C w s t q values ↔ ∀ sizes data, sizes.length = 24 →
      q.Received B ⟨w, sizes⟩ values data → Spell w data values := by
  constructor
  · intro h sizes data hsizes hdata
    obtain ⟨data', hdata', hsettles⟩ :=
      SizeQuery.exists_received (C := C) (H := ⟨w, sizes⟩) (s := s) hz hw hcounts hv
    obtain rfl := hdata.unique hdata'
    have hstored := hsettles ⟨w * values.length, true, true⟩
      (Returned fun _ => StoresBytes ⟨w * values.length, true, true⟩ data s) stable_returned
      fun s' rest log hs' => .final ⟨_, rfl, hs'⟩
    obtain ⟨r, s', ⟨-, hgot⟩, hs'⟩ := (h sizes _ hsizes).of_finishes D.answers hstored
    exact hgot.spell hs'
  · intro h sizes args hsizes
    obtain ⟨data, hdata, hsettles⟩ :=
      SizeQuery.exists_received (C := C) (H := ⟨w, sizes⟩) (s := s) hz hw hcounts hv
    refine hsettles args _ stable_finishes fun s' rest log hs' => .final (Or.inl ⟨_, rfl, rfl, ?_⟩)
    exact (h sizes data hsizes hdata).gotNumbers hs'

end Calls

/-! ## Which numbers arrive -/

section Spelling

variable {B : ServerBuild} {w : ℕ} {sizes : Bytes} {n m : UInt64}

/-- Eight bytes are a `std::size_t` of eight bytes. -/
theorem spell_enc_iff : Spell w (enc m) [n] ↔ w = 8 ∧ m = n := by
  have hlen : (enc m).length = 8 := length_leBytes 8 _
  have hvalue : leValue (enc m) = m.toNat := leValue_leBytes_of_lt m.toNat_lt
  have hnumbers : numbersIn 8 1 (enc m) = [m.toNat] := by
    rw [numbersIn, numbersIn, ← hlen, List.take_length, hvalue]
  constructor
  · rintro ⟨hw, hspell⟩
    rw [hlen, List.length_singleton, Nat.mul_one] at hw
    subst hw
    rw [List.length_singleton, hnumbers, List.map_singleton, List.singleton_inj] at hspell
    exact ⟨rfl, UInt64.toNat_inj.mp hspell⟩
  · rintro ⟨rfl, rfl⟩
    exact ⟨hlen, hnumbers⟩

theorem spell_size (hw : w ≤ 8) (hn : n.toNat < 256 ^ w) :
    Spell w (Host.size ⟨w, sizes⟩ n) [n] := by
  have hlen : (Host.size ⟨w, sizes⟩ n).length = w := length_size (H := ⟨w, sizes⟩) hw n
  have hvalue : leValue (Host.size ⟨w, sizes⟩ n) = n.toNat := by
    rw [leValue_size, Nat.mod_eq_of_lt hn]
  refine ⟨by rw [hlen, List.length_singleton, Nat.mul_one], ?_⟩
  rw [List.length_singleton, numbersIn, numbersIn, List.take_of_length_le hlen.le, hvalue,
    List.map_singleton]

/-- The second one of three sizes is what has been in the array before. -/
theorem mod_of_spell_three (hw : w ≤ 8) {a b c x : UInt8} {l k : UInt64}
    (h : Spell w ((words 3 (storeInto (List.replicate 24 x) [a, b, c])).flatMap
      (Host.size ⟨w, sizes⟩)) [l, m, k]) :
    (wordAt (List.replicate 16 x)).toNat % 256 ^ w = m.toNat := by
  have hdrop : (storeInto (List.replicate 24 x) [a, b, c]).drop 8 = List.replicate 16 x := rfl
  obtain ⟨y, v, z, hv, hwords⟩ : ∃ y v z, v = wordAt (List.replicate 16 x) ∧
      words 3 (storeInto (List.replicate 24 x) [a, b, c]) = [y, v, z] := by
    rw [words, words, hdrop, words, words]
    exact ⟨_, _, _, rfl, rfl⟩
  have hthree := h.2
  have hnumbers := numbersIn_flatMap (H := ⟨w, sizes⟩) hw [y, v, z]
  rw [hwords] at hthree
  have hlists := hnumbers.symm.trans hthree
  rw [← hv]
  exact (List.cons.inj (List.cons.inj hlists).2).1

/-- **Three sizes never arrive**, whatever they are: they would have to have been in the array. -/
theorem not_spell_three (hw : 0 < w) (hw8 : w ≤ 8) {l k : UInt64} (h : ∀ sizes : Bytes,
    sizes.length = 24 → Spell w ((words 3 (storeInto sizes ((wordBytes [l, m, k]).take 3))).flatMap
      (Host.size ⟨w, sizes⟩)) [l, m, k]) : False := by
  have hlen : ((wordBytes [l, m, k]).take 3).length = 3 :=
    List.length_take_of_le ((by decide : 3 ≤ 24).trans_eq (length_wordBytes [l, m, k]).symm)
  obtain ⟨a, b, c, habc⟩ := List.length_eq_three.mp hlen
  rw [habc] at h
  have hdvd : 256 ∣ 256 ^ w := dvd_pow_self 256 hw.ne'
  have hzeros := mod_of_spell_three hw8 (h (List.replicate 24 0) rfl)
  have hones := mod_of_spell_three hw8 (h (List.replicate 24 1) rfl)
  have hlow := congrArg (· % 256) (hzeros.trans hones.symm)
  rw [Nat.mod_mod_of_dvd _ hdvd, Nat.mod_mod_of_dvd _ hdvd] at hlow
  exact absurd hlow (by decide)

/-- A query is not both. -/
theorem SizeQuery.Triple.not_single {q : SizeQuery} (h : q.Triple) : ¬ q.Single := by
  cases q with
  | clGetDeviceInfo device param =>
    have hparam : param = CL_DEVICE_MAX_WORK_ITEM_SIZES := h
    intro hmem
    rw [SizeQuery.Single, hparam] at hmem
    exact absurd hmem (by decide)
  | clGetKernelWorkGroupInfo kernel device param =>
    have hparam : param = CL_KERNEL_COMPILE_WORK_GROUP_SIZE := h
    intro hmem
    rw [SizeQuery.Single, hparam] at hmem
    exact absurd hmem (by decide)

theorem SizeQuery.Preserved.spell {q : SizeQuery} {values : List UInt64} {data : Bytes}
    (h : q.Preserved B w values) (hw8 : w ≤ 8) (hfits : ∀ n ∈ values, n.toNat < 256 ^ w)
    (hdata : q.Received B ⟨w, sizes⟩ values data) : Spell w data values := by
  obtain ⟨hsingle, hwidth, hvalues⟩ := h
  cases hdata with
  | ofDevice n hq ht => exact spell_enc_iff.mpr ⟨hwidth, rfl⟩
  | ofKernel n hq => exact spell_size hw8 (hfits n List.mem_cons_self)
  | mistaken n hq ht =>
    have hself := (hvalues.resolve_left ht)
    rw [List.singleton_inj] at hself
    exact spell_enc_iff.mpr ⟨hwidth, mistaken_eq_self_iff.mpr hself⟩
  | three l m n hq => exact absurd hsingle hq.not_single

theorem SizeQuery.Preserved.of_spell {q : SizeQuery} {values : List UInt64} (hw : 0 < w)
    (hw8 : w ≤ 8) (hcounts : q.Counts values) (h : ∀ sizes data, sizes.length = 24 →
      q.Received B ⟨w, sizes⟩ values data → Spell w data values) : q.Preserved B w values := by
  rcases hcounts with ⟨htriple, hlen⟩ | ⟨hsingle, hlen⟩
  · obtain ⟨l, m, n, rfl⟩ := List.length_eq_three.mp hlen
    exact (not_spell_three hw hw8 fun sizes hsizes =>
      h sizes _ hsizes (.three l m n htriple)).elim
  · obtain ⟨n, rfl⟩ := List.length_eq_one_iff.mp hlen
    refine ⟨hsingle, ?_⟩
    cases q with
    | clGetDeviceInfo device param =>
      by_cases ht : (SizeQuery.clGetDeviceInfo device param).Translated B
      · have hspell := h (zeros 24) _ rfl (.ofDevice n hsingle ht)
        exact ⟨(spell_enc_iff.mp hspell).1, Or.inl ht⟩
      · have hspell := spell_enc_iff.mp (h (zeros 24) _ rfl (.mistaken n hsingle ht))
        rw [mistaken_eq_self_iff] at hspell
        exact ⟨hspell.1, Or.inr (List.singleton_inj.mpr hspell.2)⟩
    | clGetKernelWorkGroupInfo kernel device param => exact ⟨rfl, Or.inl trivial⟩

end Spelling

/-- **When sizes arrive**: exactly when it is one size, and both sides translate it.  Three sizes
never do. -/
theorem numbers_arrive_iff {D : Driver} {B : ServerBuild} {C : Build} {s : ClientState}
    {t : ServerState} {w : ℕ} {q : SizeQuery} {values : List UInt64}
    (hz : SameFormat B.zlib C.zlib) (hw : 0 < w) (hw8 : w ≤ 8) (hcounts : q.Counts values)
    (hv : Has D (q.question t) (wordBytes values)) (hfits : ∀ n ∈ values, n.toNat < 256 ^ w) :
    NumbersArrive D B C w s t q values ↔ q.Preserved B w values := by
  rw [numbersArrive_iff_spell hz hw8 hcounts hv]
  exact ⟨.of_spell hw hw8 hcounts, fun h _ _ _ hdata => h.spell hw8 hfits hdata⟩

/-! ### A driver with sizes -/

/-- A driver that has the same sizes for every query. -/
theorem has_valueDriver (v : Bytes) (q : InfoQuery) : Has (valueDriver v) q v :=
  ⟨fun _ _ _ => rfl, fun _ _ _ => rfl, fun _ _ _ _ => rfl⟩

/-- The largest work group of a kernel, on a machine of 32 bits. -/
theorem numbers_arrive_iff_group :
    NumbersArrive (valueDriver (wordBytes [256])) ⟨plainBuild, 210⟩ plainBuild 4
        ⟨[], 0, [], false, []⟩ ⟨[66, 77], none⟩
        (.clGetKernelWorkGroupInfo ⟨1, 1, .kernel⟩ ⟨0, 0, .deviceID⟩ CL_KERNEL_WORK_GROUP_SIZE)
        [256] := by
  have hsingle : (SizeQuery.clGetKernelWorkGroupInfo ⟨1, 1, .kernel⟩ ⟨0, 0, .deviceID⟩
      CL_KERNEL_WORK_GROUP_SIZE).Single := Or.inr (Or.inr rfl)
  refine (numbers_arrive_iff .plain (by decide) (by decide) (Or.inr ⟨hsingle, rfl⟩)
    (has_valueDriver _ _) (List.forall_mem_singleton.mpr (by decide))).mpr ?_
  exact ⟨hsingle, rfl, Or.inl trivial⟩

/-- A device with work items of 256, 256 and 64. -/
theorem work_item_sizes_lost :
    ¬ NumbersArrive (valueDriver (wordBytes [256, 256, 64])) ⟨plainBuild, 210⟩ plainBuild 8
      ⟨[], 0, [], false, []⟩ ⟨[66, 77], none⟩
      (.clGetDeviceInfo ⟨0, 0, .deviceID⟩ CL_DEVICE_MAX_WORK_ITEM_SIZES) [256, 256, 64] := by
  intro h
  have hcounts : (SizeQuery.clGetDeviceInfo ⟨0, 0, .deviceID⟩ CL_DEVICE_MAX_WORK_ITEM_SIZES).Counts
      [256, 256, 64] := Or.inl ⟨rfl, rfl⟩
  have hspell := (numbersArrive_iff_spell .plain le_rfl hcounts (has_valueDriver _ _)).mp h
  have hpreserved := SizeQuery.Preserved.of_spell (by decide) le_rfl hcounts hspell
  have htriple :
      (SizeQuery.clGetDeviceInfo ⟨0, 0, .deviceID⟩ CL_DEVICE_MAX_WORK_ITEM_SIZES).Triple :=
    rfl
  exact htriple.not_single hpreserved.1

end RemoteCL
