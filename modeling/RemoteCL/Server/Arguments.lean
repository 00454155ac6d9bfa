import Mathlib.Data.List.TakeWhile
import RemoteCL.Client.Environment

/-!
# The arguments of the server

`main` takes the port from its arguments.  Behind `--port` it expects a number, which is converted
by `std::strtoul` and then narrowed to 16 bits.  The conversion accepts white space and a sign
before the digits, and what is checked behind it is only that everything has been read.

The arguments that open a port are pairs of `--port` and a numeral and nothing else, and the last
pair counts (`parseArguments_iff`).  All other arguments end the program, with the status 0
exactly if `--help` follows such pairs.
-/

namespace RemoteCL

open ByteStream

namespace Server

open Client (isspace isdigit strtoul)

/-! ## Numerals -/

def plus : UInt8 := '+'.toUInt8

def minus : UInt8 := '-'.toUInt8

/-- Where `strtoul` leaves its `end`: behind the digits, or at the start if there are none. -/
def numeralEnd (text : Bytes) : ℕ :=
  let spaces := text.takeWhile isspace
  let signed := text.dropWhile isspace
  let sign := if signed.head? = some plus ∨ signed.head? = some minus then 1 else 0
  let digits := (signed.drop sign).takeWhile isdigit
  if digits.isEmpty then 0 else spaces.length + sign + digits.length

/-- A numeral: white space, a sign and digits, of which the first two may be missing. -/
structure Numeral (text sign digits : Bytes) : Prop where
  spaces : ∃ spaces : Bytes, (∀ c ∈ spaces, isspace c = true) ∧ text = spaces ++ (sign ++ digits)
  sign : sign = [] ∨ sign = [plus] ∨ sign = [minus]
  all_digits : ∀ c ∈ digits, isdigit c = true
  nonempty : digits ≠ []

/-- The value of a numeral, in 64 bits.  A number that is too large becomes the largest one, and a
minus negates. -/
def unsignedLong (sign digits : Bytes) : UInt64 :=
  let n := digits.foldl (fun n c => 10 * n + (c.toNat - 48)) 0
  if 2 ^ 64 ≤ n then 0xFFFFFFFFFFFFFFFF
  else if sign = [minus] then -UInt64.ofNat n
  else UInt64.ofNat n

theorem isspace_of_isdigit {c : UInt8} (h : isdigit c = true) :
    isspace c = false ∧ c ≠ plus ∧ c ≠ minus := by
  have hall : ∀ n : Fin 256, isdigit (UInt8.ofFin n) = true →
      isspace (UInt8.ofFin n) = false ∧ UInt8.ofFin n ≠ plus ∧ UInt8.ofFin n ≠ minus := by
    decide +kernel
  exact hall c.toFin h

/-- What stands behind the white space of a numeral. -/
theorem Numeral.dropWhile {text sign digits : Bytes} (h : Numeral text sign digits) :
    text.dropWhile isspace = sign ++ digits ∧
      (text.takeWhile isspace).length + (sign ++ digits).length = text.length := by
  obtain ⟨⟨spaces, hspaces, rfl⟩, hsign, hdigits, hne⟩ := h
  have hhead : (sign ++ digits).dropWhile isspace = sign ++ digits := by
    obtain ⟨c, ds, rfl⟩ := List.exists_cons_of_ne_nil hne
    have hc := isspace_of_isdigit (hdigits c List.mem_cons_self)
    rcases hsign with rfl | rfl | rfl
    · exact List.dropWhile_cons_of_neg (by simp [hc.1])
    · rfl
    · rfl
  have hdrop : (spaces ++ (sign ++ digits)).dropWhile isspace = sign ++ digits := by
    rw [List.dropWhile_append_of_pos hspaces, hhead]
  have hlength := congrArg List.length
    (List.takeWhile_append_dropWhile (p := isspace) (l := spaces ++ (sign ++ digits)))
  rw [List.length_append, hdrop] at hlength
  exact ⟨hdrop, hlength⟩

/-- The sign of a numeral, and what stands behind it. -/
theorem Numeral.drop_sign {text sign digits : Bytes} (h : Numeral text sign digits) :
    (if (sign ++ digits).head? = some plus ∨ (sign ++ digits).head? = some minus then 1 else 0) =
      sign.length ∧ (sign ++ digits).drop sign.length = digits ∧
      ((sign ++ digits).head? == some minus) = decide (sign = [minus]) := by
  obtain ⟨-, hsign, hdigits, hne⟩ := h
  obtain ⟨c, ds, rfl⟩ := List.exists_cons_of_ne_nil hne
  have hc := isspace_of_isdigit (hdigits c List.mem_cons_self)
  rcases hsign with rfl | rfl | rfl
  · simp [hc.2.1, hc.2.2]
  · exact ⟨rfl, rfl, rfl⟩
  · exact ⟨rfl, rfl, rfl⟩

/-- `strtoul` reads a numeral to its end. -/
theorem Numeral.numeralEnd_eq {text sign digits : Bytes} (h : Numeral text sign digits) :
    numeralEnd text = text.length ∧ text.length ≠ 0 := by
  obtain ⟨hdrop, hlength⟩ := h.dropWhile
  obtain ⟨hsign, hrest, -⟩ := h.drop_sign
  have hdigits : digits.takeWhile isdigit = digits := List.takeWhile_eq_self_iff.mpr h.all_digits
  have hpos : 0 < digits.length := List.length_pos_iff.mpr h.nonempty
  rw [List.length_append] at hlength
  constructor
  · simp only [numeralEnd, hdrop, hsign, hrest, hdigits, List.isEmpty_iff, h.nonempty, if_false]
    omega
  · omega

/-- The value that `strtoul` gives to a numeral. -/
theorem Numeral.strtoul_eq {text sign digits : Bytes} (h : Numeral text sign digits) :
    (strtoul text).1 = unsignedLong sign digits := by
  obtain ⟨hdrop, -⟩ := h.dropWhile
  obtain ⟨hsign, hrest, hminus⟩ := h.drop_sign
  have hdigits : digits.takeWhile isdigit = digits := List.takeWhile_eq_self_iff.mpr h.all_digits
  have hskip : (if ((sign ++ digits).head? == some '-'.toUInt8 ||
      (sign ++ digits).head? == some '+'.toUInt8) = true then (sign ++ digits).drop 1
      else sign ++ digits) = digits := by
    change (if ((sign ++ digits).head? == some minus || (sign ++ digits).head? == some plus) = true
      then (sign ++ digits).drop 1 else sign ++ digits) = digits
    split at hsign
    · rename_i hhead
      rw [if_pos (by simpa [or_comm] using hhead), hsign, hrest]
    · rename_i hhead
      rw [if_neg (by simpa [or_comm] using hhead)]
      rwa [← hsign] at hrest
  have hempty : ¬ digits.isEmpty = true := by simpa using h.nonempty
  change ((sign ++ digits).head? == some '-'.toUInt8) = _ at hminus
  simp only [strtoul, hdrop, unsignedLong]
  rw [hskip, hdigits, if_neg hempty]
  split
  · rfl
  · simp only [hminus, decide_eq_true_eq]

/-- What `strtoul` reads to its end is a numeral. -/
theorem numeral_of_numeralEnd {text : Bytes} (h : numeralEnd text = text.length)
    (hne : text.length ≠ 0) : ∃ sign digits, Numeral text sign digits := by
  have htext := congrArg List.length (List.takeWhile_append_dropWhile (p := isspace) (l := text))
  rw [List.length_append] at htext
  simp only [numeralEnd] at h
  generalize hsigned : text.dropWhile isspace = signed at h htext
  generalize hn : (if signed.head? = some plus ∨ signed.head? = some minus then 1 else 0) = n at h
  split at h
  · exact absurd h.symm hne
  · rename_i hdigits
    have hsplit := List.takeWhile_append_dropWhile (p := isdigit) (l := signed.drop n)
    have hrest := congrArg List.length hsplit
    rw [List.length_append, List.length_drop] at hrest
    have hn1 : n ≤ signed.length ∧
        (signed.take n = [] ∨ signed.take n = [plus] ∨ signed.take n = [minus]) := by
      cases signed with
      | nil => simp at hn; simp [← hn]
      | cons c cs => 
        split at hn
        · subst hn; rename_i hc; simpa using hc
        · subst hn; simp
    have hnil : (signed.drop n).dropWhile isdigit = [] := List.length_eq_zero_iff.mp (by omega)
    rw [hnil, List.append_nil] at hsplit
    refine ⟨signed.take n, (signed.drop n).takeWhile isdigit, ⟨text.takeWhile isspace, ?_, ?_⟩,
      hn1.2, ?_, ?_⟩
    · exact fun c hc => List.mem_takeWhile_imp hc
    · rw [hsplit, List.take_append_drop, ← hsigned, List.takeWhile_append_dropWhile]
    · exact fun c hc => List.mem_takeWhile_imp hc
    · simpa using hdigits

/-- **The numerals are what `strtoul` reads to its end.** -/
theorem numeralEnd_iff {text : Bytes} :
    numeralEnd text = text.length ∧ numeralEnd text ≠ 0 ↔
      ∃ sign digits, Numeral text sign digits := by
  constructor
  · rintro ⟨hend, hne⟩
    exact numeral_of_numeralEnd hend (hend ▸ hne)
  · rintro ⟨sign, digits, h⟩
    obtain ⟨hend, hne⟩ := h.numeralEnd_eq
    exact ⟨hend, hend ▸ hne⟩

/-! ## `main` -/

def portFlag : Bytes := "--port".toList.map Char.toUInt8

def helpFlag : Bytes := "--help".toList.map Char.toUInt8

/-- How `main` leaves its arguments: it opens the server port, or it returns. -/
inductive ArgumentsEnd where
  | opens (port : UInt16)
  | exits (status : Int32)
  deriving DecidableEq

/-- The arguments of `main` behind the name of the program, each without its terminator. -/
def parseArguments (port : UInt16) : List Bytes → ArgumentsEnd
  | [] => .opens port
  | arg :: args =>
    if arg = portFlag then
      match args with
      -- Missing argument for --port.
      | [] => .exits (-1)
      | text :: args =>
        if numeralEnd text ≠ text.length ∨ numeralEnd text = 0 then .exits (-1)
        else parseArguments (strtoul text).1.toUInt16 args
    else if arg = helpFlag then .exits 0
    else .exits (-1)

/-- `--port` and a numeral. -/
structure PortArgument where
  text : Bytes
  sign : Bytes
  digits : Bytes
  numeral : Numeral text sign digits

namespace PortArgument

def words (a : PortArgument) : List Bytes := [portFlag, a.text]

def port (a : PortArgument) : UInt16 := (unsignedLong a.sign a.digits).toUInt16

/-- The last port named, if one is named. -/
def last (as : List PortArgument) (default : UInt16) : UInt16 :=
  (as.map port).getLastD default

end PortArgument

section parseArguments

variable {port : UInt16} {args rest : List Bytes} (a : PortArgument) (as : List PortArgument)

theorem parseArguments_words :
    parseArguments port (a.words ++ args) = parseArguments a.port args := by
  obtain ⟨hend, hne⟩ := a.numeral.numeralEnd_eq
  have hread : ¬ (numeralEnd a.text ≠ a.text.length ∨ numeralEnd a.text = 0) := by
    simp only [hend, hne, not_or, not_false_eq_true, ne_eq, not_true_eq_false, and_true]
  simp only [PortArgument.words, List.cons_append, List.nil_append, parseArguments, if_true,
    if_neg hread, a.numeral.strtoul_eq, PortArgument.port]

theorem parseArguments_append :
    parseArguments port (as.flatMap PortArgument.words ++ rest) =
      parseArguments (PortArgument.last as port) rest := by
  induction as generalizing port with
  | nil => rfl
  | cons a as ih =>
    rw [List.flatMap_cons, List.append_assoc, parseArguments_words, ih]
    simp only [PortArgument.last, List.map_cons, List.getLastD_cons]

/-- Arguments that `main` refuses, whatever port has been named before them. -/
def Refused (args : List Bytes) : Prop := ∀ port, parseArguments port args = .exits (-1)

/-- A first argument that is neither flag is refused, and so is `--port` before what is not a
numeral. -/
theorem exists_portArgument_or_refused (arg : Bytes) (args : List Bytes) :
    (∃ (a : PortArgument) (rest : List Bytes), arg :: args = a.words ++ rest) ∨
      arg = helpFlag ∨ Refused (arg :: args) := by
  by_cases hport : arg = portFlag
  · subst hport
    cases args with
    | nil => exact Or.inr (Or.inr fun port => by rw [parseArguments.eq_def]; exact if_pos rfl)
    | cons text args =>
      by_cases hread : numeralEnd text = text.length ∧ numeralEnd text ≠ 0
      · obtain ⟨sign, digits, h⟩ := numeralEnd_iff.mp hread
        exact Or.inl ⟨⟨text, sign, digits, h⟩, args, rfl⟩
      · refine Or.inr (Or.inr fun port => ?_)
        have hrefuse : numeralEnd text ≠ text.length ∨ numeralEnd text = 0 := by
          by_contra hboth
          exact hread (by simpa only [not_or, ne_eq, not_not] using hboth)
        rw [parseArguments, if_pos rfl]
        exact if_pos hrefuse
  · by_cases hhelp : arg = helpFlag
    · exact Or.inr (Or.inl hhelp)
    · refine Or.inr (Or.inr fun port => ?_)
      rw [parseArguments.eq_def]
      exact (if_neg hport).trans (if_neg hhelp)

/-- Behind the pairs of `--port` and a numeral the arguments end, ask for help, or are refused. -/
theorem exists_portArguments (args : List Bytes) : ∃ (as : List PortArgument) (rest : List Bytes),
    args = as.flatMap PortArgument.words ++ rest ∧
      (rest = [] ∨ (∃ rest', rest = helpFlag :: rest') ∨ Refused rest) := by
  -- The number of arguments decreases by two with each pair.
  induction h : args.length using Nat.strong_induction_on generalizing args with
  | _ n ih =>
    cases args with
    | nil => exact ⟨[], [], rfl, Or.inl rfl⟩
    | cons arg args =>
      rcases exists_portArgument_or_refused arg args with ⟨a, rest, hargs⟩ | rfl | hrefused
      · have hlength := congrArg List.length hargs
        simp only [PortArgument.words, List.length_append, List.length_cons, List.length_nil]
          at h hlength
        obtain ⟨as, rest', hrest, hend⟩ := ih rest.length (by omega) rest rfl
        refine ⟨a :: as, rest', ?_, hend⟩
        rw [hargs, hrest, List.flatMap_cons, List.append_assoc]
      · exact ⟨[], helpFlag :: args, rfl, Or.inr (Or.inl ⟨args, rfl⟩)⟩
      · exact ⟨[], arg :: args, rfl, Or.inr (Or.inr hrefused)⟩

theorem parseArguments_pairs :
    parseArguments port (as.flatMap PortArgument.words) = .opens (PortArgument.last as port) := by
  rw [← List.append_nil (as.flatMap PortArgument.words), parseArguments_append, parseArguments]

theorem parseArguments_help :
    parseArguments port (as.flatMap PortArgument.words ++ helpFlag :: rest) = .exits 0 := by
  rw [parseArguments_append, parseArguments.eq_def]
  exact (if_neg (by decide)).trans (if_pos rfl)

/-- **What `main` accepts.**  It opens a port exactly on pairs of `--port` and a numeral, with
nothing between or behind them, and the port is what the last of them says in 16 bits.  It returns
0 exactly if `--help` stands behind such pairs, and -1 on everything else. -/
theorem parseArguments_iff (default : UInt16) (args : List Bytes) :
    (∀ port, parseArguments default args = .opens port ↔
      ∃ as : List PortArgument, args = as.flatMap PortArgument.words ∧
        port = PortArgument.last as default) ∧
    (parseArguments default args = .exits 0 ↔
      ∃ (as : List PortArgument) (rest : List Bytes),
        args = as.flatMap PortArgument.words ++ helpFlag :: rest) ∧
    (∀ status, parseArguments default args = .exits status → status = 0 ∨ status = -1) := by
  refine ⟨fun port => ⟨fun h => ?_, ?_⟩, ⟨fun h => ?_, ?_⟩, fun status h => ?_⟩
  · obtain ⟨as, rest, rfl, rfl | ⟨rest, rfl⟩ | hrefused⟩ := exists_portArguments args
    · rw [List.append_nil, parseArguments_pairs] at h
      exact ⟨as, List.append_nil _, (ArgumentsEnd.opens.inj h).symm⟩
    · rw [parseArguments_help] at h
      cases h
    · rw [parseArguments_append, hrefused] at h
      cases h
  · rintro ⟨as, rfl, rfl⟩
    exact parseArguments_pairs as
  · obtain ⟨as, rest, rfl, rfl | ⟨rest, rfl⟩ | hrefused⟩ := exists_portArguments args
    · rw [List.append_nil, parseArguments_pairs] at h
      cases h
    · exact ⟨as, rest, rfl⟩
    · rw [parseArguments_append, hrefused] at h
      exact absurd h (by decide)
  · rintro ⟨as, rest, rfl⟩
    exact parseArguments_help as
  · obtain ⟨as, rest, rfl, rfl | ⟨rest, rfl⟩ | hrefused⟩ := exists_portArguments args
    · rw [List.append_nil, parseArguments_pairs] at h
      cases h
    · rw [parseArguments_help] at h
      exact Or.inl (ArgumentsEnd.exits.inj h).symm
    · rw [parseArguments_append, hrefused] at h
      exact Or.inr (ArgumentsEnd.exits.inj h).symm

/-- `--port 70000` opens the port 4464, and `--port -1` would open 65535. -/
example : parseArguments 23857 [portFlag, "70000".toList.map Char.toUInt8] = .opens 4464 ∧
    parseArguments 23857 [portFlag, "-1".toList.map Char.toUInt8] = .opens 65535 := by
  decide +kernel

end parseArguments

end Server

end RemoteCL
