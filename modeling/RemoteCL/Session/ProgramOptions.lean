import RemoteCL.Session.Notifications

/-!
# Options of compilations and builds

`setKernelArg` asks the driver what kind of argument it has been given.  The driver knows this of
the kernels of a program that it has compiled with the option `-cl-kernel-arg-info`.  `buildProgram`
adds the option if it does not find it in the string of the application, where it looks for the text
and not for an option.  `compileProgram` adds nothing.

The options are read off a string in `optionsIn`.  `options_prepared_iff` says after which calls the
driver has been given what it needs.
-/

namespace RemoteCL

open ByteStream Conversation Wire LawfulWire Client ServerInstance

/-! ## Options in a string -/

/-- The characters between options. -/
def isSpace (c : UInt8) : Bool := c == 32 || (9 ≤ c && c ≤ 13)

/-- The options in a string. -/
def optionsIn (s : Bytes) : List Bytes := (s.splitOnP isSpace).filter fun o => o ≠ []

/-- The first piece of a string is a prefix of it, and every piece is somewhere in it. -/
theorem splitOnP_pieces {α : Type*} (p : α → Bool) (xs : List α) :
    (∀ o ∈ (xs.splitOnP p).head?, o <+: xs) ∧ ∀ o ∈ xs.splitOnP p, o <:+: xs := by
  induction xs with
  | nil => simp
  | cons x xs ih =>
    obtain ⟨hhead, hmem⟩ := ih
    rw [List.splitOnP_cons_eq_if_modifyHead]
    split
    · refine ⟨?_, ?_⟩
      · rintro o ⟨⟩
        exact List.nil_prefix
      · intro o ho
        rcases List.mem_cons.mp ho with rfl | ho
        · exact List.nil_infix
        · exact List.infix_cons (hmem o ho)
    · obtain ⟨piece, pieces, hpieces⟩ := List.exists_cons_of_ne_nil (List.splitOnP_ne_nil p xs)
      rw [hpieces] at hhead hmem
      rw [hpieces, List.modifyHead_cons]
      -- the first piece grows by the character
      have hpiece : x :: piece <+: x :: xs := List.cons_prefix_cons.mpr ⟨rfl, hhead piece rfl⟩
      refine ⟨?_, ?_⟩
      · rintro o ⟨⟩
        exact hpiece
      · intro o ho
        rcases List.mem_cons.mp ho with rfl | ho
        · exact hpiece.isInfix
        · exact List.infix_cons (hmem o (List.mem_cons_of_mem _ ho))

/-- An option is in the string as a text. -/
theorem infix_of_mem_optionsIn {o s : Bytes} (h : o ∈ optionsIn s) : o <:+: s :=
  (splitOnP_pieces isSpace s).2 o (List.mem_filter.mp h).1

/-- An option that is added after a space. -/
theorem optionsIn_append {c : UInt8} (s : Bytes) {o : Bytes} (hc : isSpace c = true)
    (ho : ∀ x ∈ o, isSpace x = false) (hne : o ≠ []) :
    optionsIn (s ++ c :: o) = optionsIn s ++ [o] := by
  rw [optionsIn, List.splitOnP_append_cons _ _ hc, List.splitOnP_eq_singleton ho,
    List.filter_append, ← optionsIn]
  simp [hne]

theorem isSpace_kernelArgInfoOption : ∀ x ∈ kernelArgInfoOption, isSpace x = false := by
  have hall : kernelArgInfoOption.all (fun x => !isSpace x) = true := by decide
  simpa using hall

theorem kernelArgInfoOption_ne_nil : kernelArgInfoOption ≠ [] := by decide

/-! ## Options that the driver is given -/

/-- The driver is given the options of the application, with the option that kernel arguments need
added to them if it is not one of them. -/
def Prepared (options given : Bytes) : Prop :=
  optionsIn given =
    if kernelArgInfoOption ∈ optionsIn options then optionsIn options
    else optionsIn options ++ [kernelArgInfoOption]

/-- The driver is asked to make the arguments of kernels known, so that it can answer the query of
`setKernelArg`. -/
theorem Prepared.mem {options given : Bytes} (h : Prepared options given) :
    kernelArgInfoOption ∈ optionsIn given := by
  rw [h]
  split
  · assumption
  · exact List.mem_append_right _ (List.mem_singleton_self _)

/-- Options that are left as they are. -/
theorem prepared_self_iff {options : Bytes} :
    Prepared options options ↔ kernelArgInfoOption ∈ optionsIn options := by
  refine ⟨Prepared.mem, fun h => ?_⟩
  rw [Prepared, if_pos h]

/-- **When the options of a build are prepared**: a text that is found must be an option. -/
theorem prepared_buildOptions_iff {options : Bytes} :
    Prepared options (buildOptions options) ↔
      (kernelArgInfoOption <:+: options → kernelArgInfoOption ∈ optionsIn options) := by
  rw [buildOptions]
  split
  · rename_i hfound
    rw [prepared_self_iff]
    exact ⟨fun h _ => h, fun h => h hfound⟩
  · rename_i hfound
    refine ⟨fun _ h => absurd h hfound, fun _ => ?_⟩
    rw [Prepared, if_neg fun h => hfound (infix_of_mem_optionsIn h)]
    exact optionsIn_append options (by decide) isSpace_kernelArgInfoOption
      kernelArgInfoOption_ne_nil

/-- The server adds no terminator to a string. -/
theorem cStr_buildOptions (options : Option Bytes) :
    cStr (buildOptions (stringOf options)) = buildOptions (stringOf options) := by
  have hstring : ∀ x ∈ stringOf options, (x != 0) = true := fun x hx => by
    rw [stringOf, cStr] at hx
    exact List.mem_takeWhile_imp (p := fun c => c != 0) hx
  have hoption : (' '.toUInt8 :: kernelArgInfoOption).all (fun x => x != 0) = true := by decide
  rw [cStr, List.takeWhile_eq_self_iff, buildOptions]
  split
  · exact hstring
  · intro x hx
    exact (List.mem_append.mp hx).elim (hstring x) (List.all_eq_true.mp hoption x)

/-! ## Calls, one after the other -/

namespace ProgramCall

/-- The options of the application for the compiler. -/
def compilerOptions : ProgramCall → Option Bytes
  | clCompileProgram _ _ options _ | clBuildProgram _ _ options => some (stringOf options)
  | clLinkProgram _ _ _ _ _ => none

/-- The string of the application leads to the option being given: to a build it may be given as an
option or not at all, and to a compilation it must be given. -/
def KeepsOption : ProgramCall → Prop
  | clCompileProgram _ _ options _ => kernelArgInfoOption ∈ optionsIn (stringOf options)
  | clLinkProgram _ _ _ _ _ => True
  | clBuildProgram _ _ options =>
    kernelArgInfoOption <:+: stringOf options → kernelArgInfoOption ∈ optionsIn (stringOf options)

end ProgramCall

/-- The options that the driver is given for the compiler. -/
def compilerOptionsGiven : Asked → Option Bytes
  | ⟨.status (.clCompileProgram _ _ options _ _ _), _⟩
  | ⟨.status (.clBuildProgram _ _ options), _⟩ => some options
  | _ => none

/-- Calls that have been made one after the other, with what the driver has been asked by them.
Between them there may be others. -/
inductive Made (D : Driver) (B : ServerBuild) : List ProgramCall → List Asked → Prop
  | nil : Made D B [] []
  | cons {q : ProgramCall} {notify : Notify} {s s' : ClientState} {t t' : ServerState}
      {log asked rest : List Asked} {r : Ret} {calls : List ProgramCall} (hq : q.Fits)
      (hnotify : notify.invalid = false)
      (hrun : Relation.ReflTransGen (Step D.environment (ServerInstance.serve B))
        (start B (q.call notify) s t log) (start B (.ret r) s' t' (log ++ asked)))
      (h : Made D B calls rest) : Made D B (q :: calls) (asked ++ rest)

/-- Every option string that the driver has been given for the compiler is prepared. -/
def OptionsPrepared (calls : List ProgramCall) (asked : List Asked) : Prop :=
  List.Forall₂ Prepared (calls.filterMap ProgramCall.compilerOptions)
    (asked.filterMap compilerOptionsGiven)

/-- One call. -/
theorem optionsPrepared_cons_iff {q : ProgramCall} {notify : Notify} {s : ClientState}
    {t : ServerState} {a : Ans (q.asked notify s t)} {calls : List ProgramCall}
    {rest : List Asked} :
    OptionsPrepared (q :: calls) (⟨q.asked notify s t, a⟩ :: rest) ↔
      q.KeepsOption ∧ OptionsPrepared calls rest := by
  cases q with
  | clCompileProgram program devices options headers =>
    exact List.forall₂_cons.trans (and_congr_left' prepared_self_iff)
  | clLinkProgram => exact ⟨fun h => ⟨trivial, h⟩, And.right⟩
  | clBuildProgram program devices options =>
    refine List.forall₂_cons.trans (and_congr_left' ?_)
    rw [cStr_buildOptions]
    exact prepared_buildOptions_iff

/-- **After which calls the driver can answer for every kernel**: the application has given the
option to every compilation, and to no build only as a part of another option. -/
theorem options_prepared_iff {D : Driver} {B : ServerBuild} {calls : List ProgramCall}
    {asked : List Asked} (hmade : Made D B calls asked) :
    OptionsPrepared calls asked ↔ ∀ q ∈ calls, q.KeepsOption := by
  induction hmade with
  | nil => exact ⟨fun _ q hq => absurd hq List.not_mem_nil, fun _ => .nil⟩
  | cons hq hnotify hrun _ ih =>
    rw [(ProgramCall.outcome hq hnotify hrun).asked, List.singleton_append,
      optionsPrepared_cons_iff, ih, List.forall_mem_cons]

/-! ### A program is built, and another is compiled and linked -/

/-- A driver that also creates what it is asked for. -/
def creatingDriver : Driver
  | _, .status _ => CL_SUCCESS
  | _, .create _ => ⟨CL_SUCCESS, 67⟩
  | _, c => refuse c

/-- The application builds its program, without options. -/
def buildCall : ProgramCall := .clBuildProgram ⟨0, 0, .program⟩ [] none

/-- It links the program that it has compiled. -/
def linkCall : ProgramCall := .clLinkProgram ⟨1, 1, .context⟩ [] none [⟨0, 0, .program⟩] false

/-- The driver is asked to build it, and to compile and to link it. -/
def buildLog : List Asked :=
  [⟨.status (.clBuildProgram 66 [] (cStr (buildOptions []))), CL_SUCCESS⟩]

def linkLog : List Asked := [⟨.create (.clLinkProgram 65 [] [] [66]), ⟨CL_SUCCESS, 67⟩⟩]

theorem run_build :
    Relation.ReflTransGen
      (Step creatingDriver.environment (ServerInstance.serve ⟨plainBuild, 210⟩))
      (start ⟨plainBuild, 210⟩ (buildCall.call ⟨none, none⟩) (compileClient false)
        ⟨[66], none⟩ [])
      (start ⟨plainBuild, 210⟩ (.ret (.code CL_SUCCESS)) (compileClient false) ⟨[66], none⟩
        ([] ++ buildLog)) := by
  refine run_of_settles fun hF => ?_
  have hnotify : (⟨none, none⟩ : Notify).invalid = false := rfl
  have hdevices : ([] : List Handle).length ≤ 255 := Nat.zero_le _
  have hoptions : StringFits (stringOf none) := Nat.zero_le _
  refine (settles_build hF ⟨0, 0, .program⟩ hnotify hdevices hoptions rfl).mpr
    (settles_statusReplied hF (fun _ => ?_) fun herr => absurd rfl herr)
  exact .final rfl

theorem run_compile :
    Relation.ReflTransGen
      (Step creatingDriver.environment (ServerInstance.serve ⟨plainBuild, 210⟩))
      (start ⟨plainBuild, 210⟩ (compileCall.call ⟨none, none⟩) (compileClient false)
        ⟨[66, 65], none⟩ [])
      (start ⟨plainBuild, 210⟩ (.ret (.code CL_SUCCESS)) (compileClient false) ⟨[66, 65], none⟩
        ([] ++ compileLog none)) := by
  refine run_of_settles fun hF => ?_
  have hK := context_catching CL_OUT_OF_HOST_MEMORY CL_DEVICE_NOT_AVAILABLE
  rw [compileCall, ProgramCall.call, call_clCompileProgram _ _ _ rfl]
  refine (settles_client_get hF hK).mpr ?_
  refine (settles_compileWith hF _ (Nat.zero_le _) (Nat.zero_le _) _ false 0 rfl).mpr
    (settles_statusReplied hF (fun _ => ?_) fun herr => absurd rfl herr)
  exact (settles_client_store hF hK).mpr (.final rfl)

theorem run_link :
    Relation.ReflTransGen
      (Step creatingDriver.environment (ServerInstance.serve ⟨plainBuild, 210⟩))
      (start ⟨plainBuild, 210⟩ (linkCall.call ⟨none, none⟩) (compileClient false)
        ⟨[66, 65], none⟩ (compileLog none))
      (start ⟨plainBuild, 210⟩ (.ret (.handle .program (some (.object ⟨1, 2, .program⟩))))
        (Resolve.registerID.apply (compileClient false) .program 2).2 ⟨[66, 65, 67], none⟩
        (compileLog none ++ linkLog)) := by
  refine run_of_settles fun hF => ?_
  have hnotify : (⟨none, none⟩ : Notify).invalid = false := rfl
  have hdevices : ([] : List Handle).length ≤ 255 := Nat.zero_le _
  have hoptions : StringFits (stringOf none) := Nat.zero_le _
  have hprograms : [(⟨0, 0, .program⟩ : Handle)] ≠ [] := List.cons_ne_nil _ _
  refine (settles_link hF ⟨1, 1, .context⟩ false hnotify hprograms hdevices hoptions
    (by decide) rfl).mpr ?_
  exact settles_linked hF (by decide) (.final rfl)

/-- What is built without options can be asked about. -/
theorem options_prepared_iff_build :
    OptionsPrepared [buildCall] buildLog := by
  have hmade : Made creatingDriver ⟨plainBuild, 210⟩ [buildCall] (buildLog ++ []) :=
    .cons ⟨Nat.zero_le _, Nat.zero_le _⟩ rfl run_build .nil
  refine (options_prepared_iff hmade).mpr ?_
  rintro q hq
  cases List.mem_singleton.mp hq
  show kernelArgInfoOption <:+: stringOf none → _
  exact fun h => absurd h (by decide)

/-- What is compiled without options and linked has been compiled without the option. -/
theorem compiled_options_not_prepared :
    Made creatingDriver ⟨plainBuild, 210⟩ [compileCall, linkCall] (compileLog none ++ linkLog) ∧
      ¬ OptionsPrepared [compileCall, linkCall] (compileLog none ++ linkLog) := by
  refine ⟨?_, ?_⟩
  · have hlink : Made creatingDriver ⟨plainBuild, 210⟩ [linkCall] (linkLog ++ []) :=
      .cons ⟨Nat.zero_le _, Nat.zero_le _, by decide, by decide⟩ rfl run_link .nil
    exact .cons ⟨Nat.zero_le _, Nat.zero_le _⟩ rfl run_compile hlink
  · intro h
    have hmem := (List.forall₂_cons.mp h).1.mem
    exact absurd hmem (by decide)

end RemoteCL
