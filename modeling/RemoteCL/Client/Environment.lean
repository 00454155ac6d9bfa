import Mathlib.Data.List.Infix
import RemoteCL.Theory.Reader

/-!
# The environment variable

The client looks into `REMOTECL` for the server that it connects to.  The value is a string in
memory, with a terminator behind it, and is read through pointers that are advanced byte by byte.
`ParseServerName` follows such a pointer: it says what the name is, and how far the pointer has got.

What the name should be is `serverNameOf`.  Both loops advance their pointer before they test it, so
the first character is never tested as an end of the name, and an opening quotation mark stays a
part of it: `EnvVar.parsesAt_iff` says for which values this makes no difference.
-/

namespace RemoteCL

open ByteStream

namespace Client

/-! ## Parsing a name -/

def quotationMark : UInt8 := 34

def semicolon : UInt8 := ';'.toUInt8

/-- The loop that looks for the closing quotation mark.  The bytes are those behind the pointer, and
`n` is how far it has been advanced.  The loop ends at the terminator as well. -/
def findClosing : Bytes → ℕ → Option (Bool × ℕ)
  | [], _ => none
  | c :: mem, n =>
    if c = 0 then some (false, n + 1)
    else if c ≠ quotationMark then findClosing mem (n + 1)
    else some (true, n + 1)

/-- The loop that looks for a semicolon or the terminator. -/
def findEnd : Bytes → ℕ → Option ℕ
  | [], _ => none
  | c :: mem, n => if c ≠ 0 ∧ c ≠ semicolon then findEnd mem (n + 1) else some (n + 1)

/-- The bytes are what is in memory from the pointer on.  The result is the name, and the offset of
the last byte that has been read.  There is none if the pointer has left the memory. -/
def ParseServerName : Bytes → Option (Bytes × ℕ)
  | [] => none
  | c :: mem =>
    if c = quotationMark then
      (findClosing mem 0).map fun found =>
        (if found.1 then (c :: mem).take found.2 else [], found.2)
    else
      (findEnd mem 0).map fun n => ((c :: mem).take n, n)

section Parsing

variable {text : Bytes} {m n : ℕ}

theorem findClosing_append (h : 0 ∉ text) (rest : Bytes) (n : ℕ) :
    findClosing (text ++ 0 :: rest) n =
      some (decide (quotationMark ∈ text),
        n + (text.takeWhile (· ≠ quotationMark)).length + 1) := by
  induction text generalizing n with
  | nil => simp [findClosing]
  | cons c text ih =>
    have htext := List.not_mem_of_not_mem_cons h
    rw [List.cons_append, findClosing, if_neg (Ne.symm (List.ne_of_not_mem_cons h))]
    by_cases hquote : c = quotationMark
    · subst hquote
      simp
    · rw [if_pos hquote, ih htext, List.takeWhile_cons_of_pos (by simpa using hquote)]
      simp [Ne.symm hquote]
      omega

theorem findEnd_append (h : 0 ∉ text) (rest : Bytes) (n : ℕ) :
    findEnd (text ++ 0 :: rest) n =
      some (n + (text.takeWhile (· ≠ semicolon)).length + 1) := by
  induction text generalizing n with
  | nil => simp [findEnd]
  | cons c text ih =>
    have hc := List.ne_of_not_mem_cons h
    have htext := List.not_mem_of_not_mem_cons h
    rw [List.cons_append, findEnd]
    by_cases hend : c = semicolon
    · subst hend
      simp
    · rw [if_pos ⟨Ne.symm hc, hend⟩, ih htext, List.takeWhile_cons_of_pos (by simpa using hend)]
      simp
      omega

/-- The pointer is advanced before the first test. -/
theorem lt_of_findEnd {mem : Bytes} (h : findEnd mem m = some n) : m < n := by
  induction mem generalizing m with
  | nil => cases h
  | cons c mem ih =>
    rw [findEnd] at h
    split at h
    · exact (Nat.lt_succ_self m).trans (ih h)
    · cases h
      exact Nat.lt_succ_self m

theorem take_takeWhile_length (p : UInt8 → Bool) (mem : Bytes) :
    (text ++ mem).take (text.takeWhile p).length = text.takeWhile p :=
  (List.prefix_iff_eq_take.1 ((text.takeWhile_prefix p).trans (text.prefix_append mem))).symm

/-- The name that a text says: what is between the quotation marks, or else everything up to a
semicolon. -/
def serverNameOf : Bytes → Bytes
  | [] => []
  | c :: text =>
    if c = quotationMark then
      if quotationMark ∈ text then text.takeWhile (· ≠ quotationMark) else []
    else (c :: text).takeWhile (· ≠ semicolon)

/-- What the first character of a text has to be for the name to be what the text says. -/
def WellDelimited : Bytes → Prop
  | [] => False
  | c :: text => if c = quotationMark then quotationMark ∉ text else c ≠ semicolon

instance : DecidablePred WellDelimited
  | [] => inferInstanceAs (Decidable False)
  | c :: text => inferInstanceAs
      (Decidable (if c = quotationMark then quotationMark ∉ text else c ≠ semicolon))

/-- A name in quotation marks is found with the opening one in front. -/
theorem ParseServerName_quoted (h : 0 ∉ text) (rest : Bytes) :
    ParseServerName (quotationMark :: text ++ 0 :: rest) =
      some (if quotationMark ∈ text then
          quotationMark :: text.takeWhile (· ≠ quotationMark) else [],
        (text.takeWhile (· ≠ quotationMark)).length + 1) := by
  rw [List.cons_append, ParseServerName, if_pos rfl, findClosing_append h, Option.map_some]
  simp only [decide_eq_true_eq, Nat.zero_add, List.take_succ_cons, take_takeWhile_length]

/-- Any other name is found with its first character, whatever that is. -/
theorem ParseServerName_unquoted {c : UInt8} (hc : c ≠ quotationMark) (h : 0 ∉ text)
    (rest : Bytes) :
    ParseServerName (c :: text ++ 0 :: rest) =
      some (c :: text.takeWhile (· ≠ semicolon),
        (text.takeWhile (· ≠ semicolon)).length + 1) := by
  rw [List.cons_append, ParseServerName, if_neg hc, findEnd_append h, Option.map_some]
  simp only [Nat.zero_add, List.take_succ_cons, take_takeWhile_length]

/-- The name is what the text says, and has been found within the text and its terminator. -/
def ParsedExactly (text rest : Bytes) : Prop :=
  ∃ n, ParseServerName (text ++ 0 :: rest) = some (serverNameOf text, n) ∧ n ≤ text.length

/-- An empty name is looked for behind the terminator. -/
theorem not_parsedExactly_nil (rest : Bytes) : ¬ ParsedExactly [] rest := by
  rintro ⟨n, hparse, hn⟩
  rw [List.nil_append, ParseServerName, if_neg (by decide), Option.map_eq_some_iff] at hparse
  obtain ⟨m, hm, hmn⟩ := hparse
  obtain rfl : m = n := congrArg Prod.snd hmn
  exact absurd (lt_of_findEnd hm) (Nat.not_lt.2 hn)

theorem parsedExactly_quoted (h : 0 ∉ text) (rest : Bytes) :
    ParsedExactly (quotationMark :: text) rest ↔ quotationMark ∉ text := by
  have hlength := (text.takeWhile_prefix (· ≠ quotationMark)).length_le
  rw [ParsedExactly, ParseServerName_quoted h, serverNameOf, if_pos rfl]
  by_cases hclosed : quotationMark ∈ text
  · simp [hclosed]
  · simpa [hclosed] using hlength

theorem parsedExactly_unquoted {c : UInt8} (hc : c ≠ quotationMark) (h : 0 ∉ text)
    (rest : Bytes) : ParsedExactly (c :: text) rest ↔ c ≠ semicolon := by
  have hlength := (text.takeWhile_prefix (· ≠ semicolon)).length_le
  rw [ParsedExactly, ParseServerName_unquoted hc h, serverNameOf, if_neg hc]
  by_cases hend : c = semicolon
  · simp [hend]
  · simpa [hend] using hlength

theorem parsedExactly_iff (h : 0 ∉ text) (rest : Bytes) :
    ParsedExactly text rest ↔ WellDelimited text := by
  cases text with
  | nil => exact iff_of_false (not_parsedExactly_nil rest) id
  | cons c text =>
    have htext := List.not_mem_of_not_mem_cons h
    rw [WellDelimited]
    split_ifs with hc
    · subst hc
      exact parsedExactly_quoted htext rest
    · exact parsedExactly_unquoted hc htext rest

/-- The name is what the text says, wherever the pointer has got. -/
theorem ParseServerName_fst_iff (h : 0 ∉ text) (rest : Bytes) :
    (ParseServerName (text ++ 0 :: rest)).map Prod.fst = some (serverNameOf text) ↔
      WellDelimited text := by
  constructor
  · intro hname
    cases text with
    | nil =>
      -- one byte is in the name at least
      rw [List.nil_append, ParseServerName, if_neg (by decide), Option.map_map,
        Option.map_eq_some_iff] at hname
      obtain ⟨n, hn, hnil⟩ := hname
      rcases List.take_eq_nil_iff.mp hnil with rfl | hnil
      · exact absurd (lt_of_findEnd hn) (Nat.lt_irrefl 0)
      · cases hnil
    | cons c text =>
      have htext := List.not_mem_of_not_mem_cons h
      rw [WellDelimited]
      split_ifs with hc
      · subst hc
        rw [ParseServerName_quoted htext, serverNameOf, if_pos rfl, Option.map_some] at hname
        intro hclosed
        rw [if_pos hclosed, if_pos hclosed, Option.some.injEq] at hname
        exact absurd (congrArg List.length hname) (Nat.succ_ne_self _)
      · rw [ParseServerName_unquoted hc htext, serverNameOf, if_neg hc, Option.map_some] at hname
        rintro rfl
        cases hname
  · intro hname
    obtain ⟨n, hparse, -⟩ := (parsedExactly_iff h rest).mpr hname
    rw [hparse, Option.map_some]

end Parsing

/-! ## The environment variable -/

/-- The value of a variable, and what there is in memory behind its terminator. -/
structure EnvVar where
  value : Bytes
  rest : Bytes
  terminated : 0 ∉ value

/-- The memory from the first byte of the value on. -/
def EnvVar.memory (v : EnvVar) : Bytes := v.value ++ 0 :: v.rest

/-- `strstr`: where a word occurs for the first time. -/
def strstr (haystack needle : Bytes) : Option ℕ := haystack.tails.findIdx? needle.isPrefixOf

def isspace (c : UInt8) : Bool := c == 32 || (9 ≤ c && c ≤ 13)

def isdigit (c : UInt8) : Bool := '0'.toUInt8 ≤ c && c ≤ '9'.toUInt8

/-- `strtoul` with base 10: the number, and whether there has been one. -/
def strtoul (text : Bytes) : UInt64 × Bool :=
  let text := text.dropWhile isspace
  let negative := text.head? == some '-'.toUInt8
  let text := if negative || text.head? == some '+'.toUInt8 then text.drop 1 else text
  let digits := text.takeWhile isdigit
  let n := digits.foldl (fun n c => 10 * n + (c.toNat - 48)) 0
  if digits.isEmpty then (0, false)
  else if 2 ^ 64 ≤ n then (0xFFFFFFFFFFFFFFFF, true)
  else (if negative then -UInt64.ofNat n else UInt64.ofNat n, true)

def portKey : Bytes := "port=".toList.map Char.toUInt8

def hostKey : Bytes := "host=".toList.map Char.toUInt8

/-- The server that a client connects to. -/
structure Target where
  serverName : Bytes
  port : UInt16
  deriving DecidableEq

/-- The port in a value. -/
def EnvVar.port (v : EnvVar) (default : UInt16) : UInt16 :=
  match strstr v.value portKey with
  | none => default
  | some p =>
    let number := strtoul (v.value.drop (p + 5))
    if number.1.toUInt16 ≠ 0 ∧ number.2 then number.1.toUInt16 else default

/-- Where the constructor of `Connection` connects to.  The name and the port of the build are used
for what the variable does not say. -/
def Connection.target (default : Target) : Option EnvVar → Option Target
  | none => some default
  | some v =>
    match strstr v.value hostKey with
    | none => some ⟨default.serverName, v.port default.port⟩
    | some p => (ParseServerName (v.memory.drop (p + 5))).map fun name =>
      ⟨name.1, v.port default.port⟩

section EnvVar

variable (v : EnvVar) {p : ℕ} {haystack needle : Bytes}

theorem strstr_prefix (h : strstr haystack needle = some p) : needle <+: haystack.drop p := by
  obtain ⟨hp, hfound, -⟩ := List.findIdx?_eq_some_iff_getElem.1 h
  rw [List.getElem_tails] at hfound
  exact List.isPrefixOf_iff_prefix.1 hfound

/-- What is in memory behind a key. -/
theorem EnvVar.drop_memory (hp : hostKey <+: v.value.drop p) :
    v.memory.drop (p + 5) = v.value.drop (p + 5) ++ 0 :: v.rest := by
  have hlength : 5 ≤ v.value.length - p := List.length_drop ▸ hp.length_le
  exact List.drop_append_of_le_length (by omega)

theorem EnvVar.zero_notMem_drop (n : ℕ) : 0 ∉ v.value.drop n :=
  fun h => v.terminated (List.mem_of_mem_drop h)

/-- The name behind a key is what the value says there, and no byte behind the terminator is read
for it. -/
def EnvVar.ParsesAt (p : ℕ) : Prop :=
  ∃ n, ParseServerName (v.memory.drop (p + 5)) = some (serverNameOf (v.value.drop (p + 5)), n) ∧
    p + 5 + n ≤ v.value.length

/-- Exactly the names that begin with a character of their own, and those that are empty because
the quotation mark is never closed, are parsed as they should be. -/
theorem EnvVar.parsesAt_iff (hp : hostKey <+: v.value.drop p) :
    v.ParsesAt p ↔ WellDelimited (v.value.drop (p + 5)) := by
  have hlength : 5 ≤ v.value.length - p := List.length_drop ▸ hp.length_le
  have hread (n : ℕ) : p + 5 + n ≤ v.value.length ↔ n ≤ (v.value.drop (p + 5)).length := by
    rw [List.length_drop]
    omega
  rw [← parsedExactly_iff (v.zero_notMem_drop _) v.rest, EnvVar.ParsesAt, ParsedExactly,
    v.drop_memory hp]
  simp only [hread]

/-- `port=1;host=a` -/
def plainHost : EnvVar where
  value := portKey ++ [49, 59] ++ hostKey ++ [97]
  rest := []
  terminated := by decide

theorem parsesAt_plainHost : plainHost.ParsesAt 7 :=
  (plainHost.parsesAt_iff (p := 7) (by decide)).mpr (by decide)

/-- `host="a"` -/
def quotedHost : EnvVar where
  value := hostKey ++ [34, 97, 34]
  rest := []
  terminated := by decide

/-- The host is called `a`, and is looked up as `"a`. -/
theorem quotedHost_keeps_mark : ¬ ∀ (v : EnvVar) (p : ℕ), hostKey <+: v.value.drop p →
    v.ParsesAt p := by
  intro h
  obtain ⟨n, hparse, -⟩ := h quotedHost 0 (by decide)
  have hname : (ParseServerName (quotedHost.memory.drop 5)).map Prod.fst ≠
      some (serverNameOf (quotedHost.value.drop 5)) := by decide
  exact hname (congrArg (Option.map Prod.fst) hparse)

/-- **The constructor connects to the host that the value says** if the name is one that is parsed
as it should be. -/
theorem Connection.target_iff (default : Target) (hhost : strstr v.value hostKey = some p) :
    Connection.target default (some v) =
        some ⟨serverNameOf (v.value.drop (p + 5)), v.port default.port⟩ ↔
      WellDelimited (v.value.drop (p + 5)) := by
  have hname := ParseServerName_fst_iff (v.zero_notMem_drop (p + 5)) v.rest
  have hkey := strstr_prefix hhost
  rw [← v.drop_memory hkey, Option.map_eq_some_iff] at hname
  rw [← hname, Connection.target, hhost, Option.map_eq_some_iff]
  simp only [Target.mk.injEq, and_true]

end EnvVar

end Client

end RemoteCL
