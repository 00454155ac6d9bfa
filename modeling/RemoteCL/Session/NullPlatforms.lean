import RemoteCL.Session.Guesses
import RemoteCL.Session.Nulls

/-!
# Null platforms

`clGetDeviceIDs` may be given no platform.  The packet has the ID zero for that, which is an ID like
any other: it is the one of the first object that the server has put into its table.  So what the
driver is asked depends on everything that has happened on the connection.

`Sequential` are the runs of API calls, one after the other, with their histories
(`Sequential.ran`).  `null_platform_iff` says which runs lead to a call with no platform that asks
for the devices of none, or of a platform: those in which the first object that a reply has named is
one.
-/

namespace RemoteCL

open ByteStream Conversation Wire LawfulWire Client

/-! ## What the driver is asked -/

/-- What the handler asks for the devices of a platform. -/
def devicesAsked (D : Driver) (log : List Asked) (platform : Ptr) (device_type : UInt64) :
    List Asked :=
  let a := D log (.clGetDeviceIDs platform device_type 0)
  let first : Asked := ⟨.clGetDeviceIDs platform device_type 0, a⟩
  if a.err ≠ CL_SUCCESS then [first]
  else
    let q := ServerCall.clGetDeviceIDs platform device_type (a.count.getD 0)
    [first, ⟨q, D (log ++ [first]) q⟩]

theorem devicesAsked_ne_nil (D : Driver) (log : List Asked) (platform : Ptr)
    (device_type : UInt64) :
    devicesAsked D log platform device_type ≠ [] := by
  rw [devicesAsked]
  split <;> exact List.cons_ne_nil _ _

/-- All questions are about the platform. -/
theorem exists_of_mem_devicesAsked {D : Driver} {log : List Asked} {platform : Ptr}
    {device_type : UInt64} {a : Asked} (ha : a ∈ devicesAsked D log platform device_type) :
    ∃ n, a.1 = .clGetDeviceIDs platform device_type n := by
  rw [devicesAsked] at ha
  split at ha
  · rw [List.mem_singleton] at ha
    exact ⟨0, by rw [ha]⟩
  · rw [List.mem_pair] at ha
    rcases ha with rfl | rfl
    · exact ⟨_, rfl⟩
    · exact ⟨_, rfl⟩

/-- The client refuses the arguments before it asks the server. -/
def RefusesDevices (num_entries : ℕ) (devices num_devices : Bool) : Bool :=
  (devices && num_entries == 0) || (!devices && !num_devices)

section Calls

variable {D : Driver} {B : ServerBuild} {C : Build} {s : ClientState} {t : ServerState}
variable {log : List Asked} {F : CallConfig (List Asked) → Prop}
variable (hF : Stable D.environment (ServerInstance.serve B) F)
include hF

/-- The IDs of some objects, or a search without end. -/
theorem settles_getIDsFor {K : ServerM Unit → ServerM Bool} (hK : Prog.Context K) {ps : List Ptr}
    {k : List IDType → ServerM Unit} {c : Side ClientState Exn Empty NoAnswer Ret} {o u d : Bytes}
    (hsome : ∀ ids mObjects, assignIDs t.mObjects ps = some (ids, mObjects) →
      Settles D.environment (ServerInstance.serve B) F
        ⟨c, ⟨K (k ids), { t with mObjects }, o⟩, u, d, log⟩)
    (hnone : ∀ t', Settles D.environment (ServerInstance.serve B) F
      ⟨c, ⟨K (Prog.spin >>= k), t', o⟩, u, d, log⟩) :
    Settles D.environment (ServerInstance.serve B) F
      ⟨c, ⟨K (ServerInstance.getIDsFor ps >>= k), t, o⟩, u, d, log⟩ := by
  induction ps generalizing t k with
  | nil => exact hsome [] t.mObjects rfl
  | cons p ps ih =>
    rw [ServerInstance.getIDsFor, bind_assoc, ServerInstance.getIDFor, bind_assoc]
    refine (settles_server_get hF hK).mpr ?_
    cases hid : assignID t.mObjects p with
    | none =>
      dsimp only
      exact hnone t
    | some a =>
      obtain ⟨id, objects⟩ := a
      dsimp only
      rw [bind_assoc]
      refine (settles_server_put hF hK).mpr ?_
      rw [pure_bind, bind_assoc]
      refine ih (t := { t with mObjects := objects }) (fun ids mObjects hids => ?_) hnone
      refine hsome _ _ ?_
      rw [assignIDs, hid, Option.bind_some, hids, Option.map_some]

/-- **What a call for devices asks**, whatever becomes of it. -/
theorem settles_clGetDeviceIDs {A : Set Ptr} (hE : AllLegal A D.environment)
    (platform : Option Handle) (device_type : UInt64) {num_entries : ℕ}
    {devices num_devices : Bool} (hargs : RefusesDevices num_entries devices num_devices = false)
    (hrest : ∀ r s' t', Settles D.environment (ServerInstance.serve B) F
      (start B (.ret r) s' t' (log ++ devicesAsked D log
        (objectAt t.mObjects ((platform.map GetID).getD 0)) device_type)))
    (hoverrun : ∀ s' t', Settles D.environment (ServerInstance.serve B) F
      (start B overrun s' t' (log ++ devicesAsked D log
        (objectAt t.mObjects ((platform.map GetID).getD 0)) device_type)))
    (hspin : ∀ k s' t', Settles D.environment (ServerInstance.serve B) F
      ⟨⟨.read 1 k, s', []⟩, ⟨.spin, t', []⟩, [], [], log ++ devicesAsked D log
        (objectAt t.mObjects ((platform.map GetID).getD 0)) device_type⟩) :
    Settles D.environment (ServerInstance.serve B) F
      (start B (clGetDeviceIDs platform device_type num_entries devices num_devices) s t log) := by
  rw [RefusesDevices, Bool.or_eq_false_iff] at hargs
  rw [clGetDeviceIDs, hargs.1, hargs.2, if_neg Bool.false_ne_true, if_neg Bool.false_ne_true]
  refine (settles_client_store hF Prog.Context.hole).mpr ?_
  refine (settles_asks hF (by decide) rfl).mpr ((settles_server_get hF context_handler).mpr
    ((Driver.settles_ask hF context_handler).mpr ?_))
  generalize hp : objectAt t.mObjects ((platform.map GetID).getD 0) = p at hrest hoverrun hspin ⊢
  rw [devicesAsked] at hrest hoverrun hspin
  split
  · rename_i herr
    rw [if_pos herr] at hrest
    exact (settles_replies hF).mpr ((settles_told hF).mpr (hrest _ _ _))
  rename_i herr
  rw [if_neg herr] at hrest hoverrun hspin
  refine (Driver.settles_ask hF context_handler).mpr ?_
  rw [List.append_assoc]
  split
  · exact (settles_replies hF).mpr ((settles_told hF).mpr (hrest _ _ _))
  have hcount : (D log (.clGetDeviceIDs p device_type 0)).count.getD 0 ≤ 255 :=
    getD_le (hE log (.clGetDeviceIDs p device_type 0) _ _ ⟨rfl, rfl⟩).fits
  rw [ServerInstance.writeIDs]
  refine settles_getIDsFor hF context_handler (fun ids mObjects hids => ?_) fun t' => ?_
  · have hlen := length_assignIDs hids
    rw [length_storeInto, List.length_replicate] at hlen
    have hreads : Reads dec (enc (⟨ids⟩ : IDListPacket)) (⟨ids⟩ : IDListPacket) :=
      reads_idListPacket (hlen.trans_lt (Nat.lt_succ_of_le hcount))
    refine (settles_replies hF).mpr ?_
    rw [List.nil_append, List.nil_append, ← List.append_nil (PacketStream.frame _ _)]
    refine (settles_client_meets hF (context_catching _ _) hreads (by decide)).mpr ?_
    refine (settles_client_store hF (context_catching _ _)).mpr ?_
    refine (settles_client_resolveAll hF (context_catching _ _)).mpr ?_
    split
    · exact hoverrun _ _
    · exact (settles_client_store hF (context_catching _ _)).mpr (hrest _ _ _)
  · obtain ⟨k, hread, -⟩ := exists_read_catching CL_OUT_OF_HOST_MEMORY CL_SUCCESS
      (Packet.mType IDListPacket) (dec : Reader IDListPacket) _
    rw [PacketStream.readPacket, hread]
    exact hspin k _ t'

end Calls

/-! ## Runs of calls -/

section Runs

variable {D : Driver} {B : ServerBuild} {C : Build} {A : Set Ptr} {s₀ s : ClientState}
variable {t₀ t : ServerState} {log : List Asked} {xs : List (Exchange (apiCalls C (List Asked)))}

variable (D B C s₀ t₀) in
/-- Calls that have been made one after the other, each when the last one had come to rest, with
what each of them has asked the driver. -/
inductive Sequential : List (Exchange (apiCalls C (List Asked))) → ClientState → ServerState →
    List Asked → Prop
  | nil : Sequential [] s₀ t₀ []
  | snoc {xs s t log s' t' asked r new} (h : Sequential xs s t log)
    (c : (apiCalls C (List Asked)).Call)
    (hrun : Relation.ReflTransGen (Step D.environment (ServerInstance.serve B))
      (start B (c.1.call C) s t log) (start B (.ret r) s' t' (log ++ asked)))
    (hnew : Extends s s' new) :
    Sequential (xs ++ [⟨c, tables s t, asked, r, new⟩]) s' t' (log ++ asked)

/-- Questions are answered as the driver answers them, and kept. -/
theorem Driver.eq_of_asks {log log' asked : List Asked} (h : Asks D.environment log asked log') :
    log' = log ++ asked := by
  induction h with
  | nil => exact (List.append_nil _).symm
  | cons ha _ ih =>
    obtain ⟨rfl, rfl⟩ := ha
    rw [ih, List.append_assoc]
    rfl

/-- **Runs of calls have histories.** -/
theorem Sequential.ran (hE : AllLegal A D.environment) (hB : 210 ≤ B.clTarget)
    (haccepted : Accepted C B.toBuild) (hz : ZlibInverts C B.toBuild) (ht : t₀.mObjects = [])
    (h : Sequential D B C s₀ t₀ xs s t log) : Ran D.environment s₀ t₀ [] xs s t log := by
  induction h with
  | nil => exact .nil
  | @snoc xs s t log s' t' asked r new h c hrun hnew ih =>
    have hcall := lawful_apiCalls (δ := List Asked) hE hB haccepted hz c s t log (ih.good hE ht)
      trivial
    have hfinal := (hcall.run stable_final hrun).of_stuck D.answers fun _ => not_step_rest
    rcases hfinal with
      ⟨r', s'', t'', log', ⟨asked', new', hasked, htables, hnew', hreceived⟩, heq⟩ |
      ⟨q, s'', t'', log', p, -, -, -, heq⟩
    · rw [start, start, Config.mk.injEq, Side.mk.injEq, Side.mk.injEq] at heq
      obtain ⟨⟨hr, rfl, -⟩, ⟨-, rfl, -⟩, -, -, rfl⟩ := heq
      obtain rfl := List.append_cancel_left (Driver.eq_of_asks hasked)
      have hsame : new = new' := List.append_cancel_left (hnew.symm.trans hnew')
      rw [Prog.ret.injEq] at hr
      subst hr hsame
      exact ih.snoc c hasked htables hnew hreceived
    · cases congrArg (fun x => x.client.prog) heq

/-! ## The first object -/

theorem Registry.head?_learn (known : List Ptr) (p : Ptr) :
    (Registry.learn known p).head? = known.head?.or (some p) := by
  rw [Registry.learn]
  split
  · rename_i hmem
    cases known with
    | nil => exact absurd hmem List.not_mem_nil
    | cons => rfl
  · rw [List.head?_append]
    rfl

/-- The first object that has been named stays the first one. -/
theorem Registry.head?_nameAll (R : Registry) (ns : List Naming) :
    (R.nameAll ns).known.head? = R.known.head?.or (ns.head?.map Naming.object) := by
  induction ns generalizing R with
  | nil => rw [List.head?_nil, Option.map_none, Option.or_none]; rfl
  | cons n ns ih =>
    have hname : (R.name n).known.head? = R.known.head?.or (some n.object) :=
      Registry.head?_learn _ _
    rw [nameAll, List.foldl_cons, ← nameAll, ih, hname, Option.or_assoc]
    rfl

/-- The first object that a reply has named. -/
def firstNamed (xs : List (Exchange (apiCalls C (List Asked)))) : Option Ptr :=
  (namedIn xs).head?.map Naming.object

/-- It has the ID zero. -/
theorem Sequential.objectAt_zero (h : Ran D.environment s₀ t₀ [] xs s t log)
    (hs : s₀.mObjects = []) (ht : t₀.mObjects = []) :
    objectAt t.mObjects 0 = (firstNamed xs).getD 0 := by
  have hserver : t.mObjects = (Registry.empty.nameAll (namedIn xs)).known :=
    (h.represents hs ht).server
  have hhead := Registry.head?_nameAll Registry.empty (namedIn xs)
  rw [← hserver] at hhead
  rw [firstNamed, objectAt, UInt16.toNat_zero, List.getD_eq_getElem?_getD, ← List.head?_eq_getElem?,
    hhead]
  rfl

/-! ## What a null platform comes to -/

/-- The objects that the driver has returned as platforms. -/
def platformsOf : Asked → List Ptr
  | ⟨.clGetPlatformIDs _, a⟩ => a.objects
  | ⟨.info (.clGetDeviceInfo _ param_name) _, a⟩ =>
    if param_name = CL_DEVICE_PLATFORM then namedOne a else []
  | _ => []

def platformsIn (log : List Asked) : List Ptr := log.flatMap platformsOf

variable (D B s t log) in
/-- A call with no platform asks the driver for the devices of none, or of an object that the driver
has returned as a platform, at whatever point it is. -/
def ReachesPlatform (device_type : UInt64) (num_entries : ℕ) (devices num_devices : Bool) : Prop :=
  ∀ (y : CallConfig (List Asked)) (asked : List Asked),
    Relation.ReflTransGen (Step D.environment (ServerInstance.serve B))
      (start B (clGetDeviceIDs none device_type num_entries devices num_devices) s t log) y →
    y.env = log ++ asked →
    ∀ platform type n a, (⟨.clGetDeviceIDs platform type n, a⟩ : Asked) ∈ asked →
      platform = 0 ∨ platform ∈ platformsIn log

/-- The first object that a reply has named is a platform, if there is one. -/
def PlatformFirst (xs : List (Exchange (apiCalls C (List Asked)))) (log : List Asked) : Prop :=
  ∀ p ∈ firstNamed xs, p = 0 ∨ p ∈ platformsIn log

theorem platformFirst_iff : PlatformFirst xs log ↔
    (firstNamed xs).getD 0 = 0 ∨ (firstNamed xs).getD 0 ∈ platformsIn log := by
  rw [PlatformFirst]
  cases firstNamed xs with
  | none => simp
  | some p => simp

/-- The call has stopped, and has asked such questions. -/
def StoppedWith (D : Driver) (B : ServerBuild) (log : List Asked) (x : CallConfig (List Asked)) :
    Prop :=
  (∀ y, ¬ Step D.environment (ServerInstance.serve B) x y) ∧ x.env = log

theorem stable_stoppedWith :
    Stable D.environment (ServerInstance.serve B) (StoppedWith D B log) :=
  fun _ y hx hstep => absurd hstep (hx.1 y)

/-- Every call with acceptable arguments stops, and has asked for devices by then. -/
theorem stopsWith_devicesAsked (hE : AllLegal A D.environment) (platform : Option Handle)
    (device_type : UInt64) {num_entries : ℕ} {devices num_devices : Bool}
    (hargs : RefusesDevices num_entries devices num_devices = false) :
    Settles D.environment (ServerInstance.serve B)
      (StoppedWith D B (log ++ devicesAsked D log
        (objectAt t.mObjects ((platform.map GetID).getD 0)) device_type))
      (start B (clGetDeviceIDs platform device_type num_entries devices num_devices) s t log) :=
  settles_clGetDeviceIDs stable_stoppedWith hE platform device_type hargs
    (fun _ _ _ => .final ⟨fun _ => not_step_rest, rfl⟩)
    (fun _ _ => .final ⟨fun _ => not_step_overrun, rfl⟩)
    fun _ _ _ => .final ⟨fun _ => not_step_spin, rfl⟩

theorem reachesPlatform_of_refuses {device_type : UInt64} {num_entries : ℕ}
    {devices num_devices : Bool} (hargs : RefusesDevices num_entries devices num_devices = true) :
    ReachesPlatform D B s t log device_type num_entries devices num_devices := by
  intro y asked hrun henv platform type n a hmem
  have hreturned : ∃ code, clGetDeviceIDs none device_type num_entries devices num_devices =
      .ret (.code code) := by
    rw [RefusesDevices, Bool.or_eq_true] at hargs
    rw [clGetDeviceIDs]
    by_cases hentries : devices && num_entries == 0
    · exact ⟨_, if_pos hentries⟩
    · exact ⟨_, (if_neg hentries).trans (if_pos (hargs.resolve_left hentries))⟩
  obtain ⟨code, hcode⟩ := hreturned
  rw [hcode] at hrun
  rcases hrun.cases_head with rfl | ⟨z, hstep, -⟩
  · have hnone : asked = [] := List.append_right_eq_self.mp henv.symm
    rw [hnone] at hmem
    exact absurd hmem List.not_mem_nil
  · exact absurd hstep not_step_rest

/-- The call asks about the object that has the ID zero. -/
theorem reachesPlatform_iff (hE : AllLegal A D.environment) {device_type : UInt64}
    {num_entries : ℕ} {devices num_devices : Bool}
    (hargs : RefusesDevices num_entries devices num_devices = false) :
    ReachesPlatform D B s t log device_type num_entries devices num_devices ↔
      objectAt t.mObjects 0 = 0 ∨ objectAt t.mObjects 0 ∈ platformsIn log := by
  have hstops : Settles D.environment (ServerInstance.serve B)
      (StoppedWith D B (log ++ devicesAsked D log (objectAt t.mObjects 0) device_type))
      (start B (clGetDeviceIDs none device_type num_entries devices num_devices) s t log) :=
    stopsWith_devicesAsked hE none device_type hargs
  constructor
  · intro hreaches
    obtain ⟨y, hrun, -, henv⟩ := hstops.exists_final D.answers
    obtain ⟨⟨q, a⟩, hmem⟩ := List.exists_mem_of_ne_nil _
      (devicesAsked_ne_nil D log (objectAt t.mObjects 0) device_type)
    obtain ⟨n, rfl⟩ := exists_of_mem_devicesAsked hmem
    exact hreaches y _ hrun henv _ _ n a hmem
  · intro hplatform y asked hrun henv platform type n a hmem
    obtain ⟨z, hyz, -, hzenv⟩ := (hstops.run stable_stoppedWith hrun).exists_final D.answers
    have hgrows := Driver.prefix_of_run hyz
    rw [henv, hzenv, List.prefix_append_right_inj] at hgrows
    obtain ⟨m, hm⟩ := exists_of_mem_devicesAsked (hgrows.subset hmem)
    rw [ServerCall.clGetDeviceIDs.injEq] at hm
    rwa [hm.1]

/-- **When no platform stays no platform**: when the client refuses the arguments, when no reply has
named an object yet, or when the first object that one has named is null or a platform. -/
theorem null_platform_iff (hE : AllLegal A D.environment) (hB : 210 ≤ B.clTarget)
    (haccepted : Accepted C B.toBuild) (hz : ZlibInverts C B.toBuild)
    (hrun : Sequential D B C s₀ t₀ xs s t log) (hs : s₀.mObjects = []) (ht : t₀.mObjects = [])
    (device_type : UInt64) (num_entries : ℕ) (devices num_devices : Bool) :
    ReachesPlatform D B s t log device_type num_entries devices num_devices ↔
      RefusesDevices num_entries devices num_devices = true ∨ PlatformFirst xs log := by
  by_cases hargs : RefusesDevices num_entries devices num_devices = true
  · exact ⟨fun _ => Or.inl hargs, fun _ => reachesPlatform_of_refuses hargs⟩
  have hfirst := Sequential.objectAt_zero (hrun.ran hE hB haccepted hz ht) hs ht
  rw [reachesPlatform_iff hE (eq_false_of_ne_true hargs), hfirst, ← platformFirst_iff]
  exact (or_iff_right hargs).symm

end Runs

/-! ### A device instead of a platform -/

/-- A driver with one device, which answers no other questions. -/
def oneDevice : Driver
  | _, .clGetDeviceIDs _ _ _ => ⟨CL_SUCCESS, some 1, [66]⟩
  | _, c => refuse c

theorem legal_oneDevice (log : List Asked) (c : ServerCall) :
    Legal ↑({0, 66} : Finset Ptr) c (oneDevice log c) := by
  cases c with
  | clGetDeviceIDs platform device_type n =>
    refine ⟨fun p hp => ?_, fun hbrief => ?_, fun k hk => ?_⟩
    · rw [oneDevice, named, if_pos rfl, storeInto] at hp
      rcases List.mem_append.mp hp with hp | hp
      · rw [List.mem_singleton.mp (List.mem_of_mem_take hp)]
        decide
      · rw [List.eq_of_mem_replicate (List.mem_of_mem_drop hp)]
        decide
    · rw [oneDevice, named, if_pos rfl, length_storeInto, List.length_replicate]
      exact hbrief
    · rw [← Option.some.inj hk]
      decide
  | _ => exact (legal_refuse _).mono (by simp)

theorem allLegal_oneDevice : AllLegal ↑({0, 66} : Finset Ptr) oneDevice.environment := by
  rintro log c a _ ⟨rfl, -⟩
  exact legal_oneDevice log c

/-- The call with which the application asks for the device. -/
def askForDevice : (apiCalls plainBuild (List Asked)).Call :=
  ⟨.clGetDeviceIDs none 0xFFFFFFFF 1 true false, fun h => by cases h⟩

/-- What has been asked when the application has asked for the device. -/
def oneDeviceLog : List Asked := devicesAsked oneDevice [] 0 0xFFFFFFFF

/-- The application asks for the device, and no platform has ever been named. -/
theorem exists_sequential_oneDevice :
    ∃ xs s t, Sequential oneDevice ⟨plainBuild, 210⟩ plainBuild ⟨[], 0, [], false, []⟩
        ⟨[], none⟩ xs s t oneDeviceLog ∧ firstNamed xs = some 66 := by
  have hcall := lawful_apiCalls (δ := List Asked) (B := ⟨plainBuild, 210⟩) allLegal_oneDevice
    (le_refl 210) accepted_plainBuild (fun _ h => nomatch h) askForDevice
    ⟨[], 0, [], false, []⟩ ⟨[], none⟩ [] (good_nil _) trivial
  have hstops : Settles oneDevice.environment (ServerInstance.serve ⟨plainBuild, 210⟩)
      (StoppedWith oneDevice ⟨plainBuild, 210⟩ ([] ++ oneDeviceLog))
      (start ⟨plainBuild, 210⟩ (clGetDeviceIDs none 0xFFFFFFFF 1 true false)
        ⟨[], 0, [], false, []⟩ ⟨[], none⟩ []) :=
    stopsWith_devicesAsked (t := ⟨[], none⟩) allLegal_oneDevice none 0xFFFFFFFF rfl
  obtain ⟨y, hrun, hfinal, hstopped⟩ :=
    (hcall.and oneDevice.answers terminal_final stable_stoppedWith hstops).exists_final
      oneDevice.answers
  rcases hfinal with ⟨r, s, t, log, ⟨asked, new, hasked, -, hnew, -⟩, rfl⟩ |
    ⟨q, s, t, log, p, hgood, hp, hnone, -⟩
  · have hlog : log = [] ++ oneDeviceLog := hstopped.2
    obtain rfl := List.append_cancel_left ((Driver.eq_of_asks hasked).symm.trans hlog)
    rw [hlog] at hrun
    exact ⟨_, _, _, .snoc .nil askForDevice hrun hnew, rfl⟩
  · exact absurd (hgood.card_lt hp hnone) (by decide)

/-- The first call, when no reply has named anything. -/
theorem null_platform_iff_device :
    ReachesPlatform oneDevice ⟨plainBuild, 210⟩ ⟨[], 0, [], false, []⟩ ⟨[], none⟩ [] 0xFFFFFFFF 1
      true false :=
  (null_platform_iff (B := ⟨plainBuild, 210⟩) (C := plainBuild) allLegal_oneDevice (le_refl 210)
    accepted_plainBuild (fun _ h => nomatch h) .nil rfl rfl 0xFFFFFFFF 1 true false).mpr
      (Or.inr fun _ h => nomatch h)

/-- The driver is asked for the devices of a device. -/
theorem null_platform_device :
    ∃ xs s t, Sequential oneDevice ⟨plainBuild, 210⟩ plainBuild ⟨[], 0, [], false, []⟩
        ⟨[], none⟩ xs s t oneDeviceLog ∧
      ¬ ReachesPlatform oneDevice ⟨plainBuild, 210⟩ s t oneDeviceLog 0xFFFFFFFF 1 true false := by
  obtain ⟨xs, s, t, hrun, hnamed⟩ := exists_sequential_oneDevice
  refine ⟨xs, s, t, hrun, ?_⟩
  have hran := Sequential.ran (B := ⟨plainBuild, 210⟩) (C := plainBuild) allLegal_oneDevice
    (le_refl 210) accepted_plainBuild (fun _ h => nomatch h) rfl hrun
  have hfirst := Sequential.objectAt_zero hran rfl rfl
  rw [reachesPlatform_iff allLegal_oneDevice rfl, hfirst, hnamed]
  decide

end RemoteCL
