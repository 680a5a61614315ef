import SchemaMill.Conversion.Document
import SchemaMill.Proofs.Charset.Naming
import SchemaMill.Proofs.Conversion.Commas
import SchemaMill.Proofs.Rows.Insertion

/-!
# Which errors end a conversion

A conversion ends with a document, with an error that a user is told about, or with another one that
escapes. Errors escape from the stages of a conversion one by one (`escapes_bind`), so what lets one
escape is found stage by stage: the names of encodings are known and the file can be read, so that
only five causes are left (`EscapeCause`). Statements of a schema dump are none of them.
-/

namespace SchemaMill.Conversion

open Charset

/-! ### Outcomes -/

/-- Whether an outcome is an error that no user is told about. -/
def Escapes {α : Type} (r : Except Failure α) : Prop := ∃ e, r = .error e ∧ e.isReported = false

section Outcomes

variable {α β ε : Type}

@[simp] theorem not_escapes_ok (a : α) : ¬Escapes (.ok a) := nofun

@[simp] theorem escapes_error (e : Failure) :
    Escapes (.error e : Except Failure α) ↔ e.isReported = false :=
  ⟨fun ⟨_, h, he⟩ => by cases h; exact he, fun h => ⟨e, rfl, h⟩⟩

theorem bind_eq_error {x : Except ε α} {f : α → Except ε β} {e : ε} :
    x >>= f = .error e ↔ x = .error e ∨ ∃ a, x = .ok a ∧ f a = .error e := by
  cases x <;> simp [bind, Except.bind]

end Outcomes

/-! ### Encodings -/

/-- Whether bytes are refused as a whole under the name of an encoding: its codec has no character
encoding, or the encoding gives neither a text nor a fault. -/
def RefusesBytes (given : Text) (data : Bytes) : Prop :=
  isAuto given = false ∧ data ≠ [] ∧
    ∃ codec, codecOf given = .ok codec ∧ ∀ e ∈ codec.encoding, e.decode? data = .ok none

/-- Whether an encoding gives a text or a fault for all bytes, and bytes for all texts. -/
def refusesNothing : Encoding → Bool
  | .punycode | .domain | .undefined => false
  | _ => true

theorem decode?_ne_none {e : Encoding} (h : refusesNothing e = true) (data : Bytes) :
    e.decode? data ≠ .ok none := by
  have hmap : ∀ r : Except DecodeError Text, r.map some ≠ .ok none := by
    intro r
    cases r <;> nofun
  cases e with
  | punycode | domain | undefined => cases h
  | utf16 order | utf32 order => cases order <;> exact hmap _
  | _ => exact hmap _

theorem exists_codecOf_server {given : Text} (h : isServerName given = true) :
    ∃ codec e, codecOf given = .ok codec ∧ codec.encoding = some e ∧ refusesNothing e = true := by
  have htable : ∀ entry ∈ serverCodecs, ∃ codec e, codecs.find? (·.name == entry.2) = some codec ∧
      codec.encoding = some e ∧ refusesNothing e = true := by
    have hall : serverCodecs.all (fun entry => (codecs.find? (·.name == entry.2)).any fun codec =>
        codec.encoding.any refusesNothing) = true := by decide +kernel
    intro entry hentry
    obtain ⟨codec, hfind, hany⟩ :=
      (Option.any_eq_true _ _).mp (List.all_eq_true.mp hall entry hentry)
    obtain ⟨e, hencoding, he⟩ := (Option.any_eq_true _ _).mp hany
    exact ⟨codec, e, hfind, hencoding, he⟩
  obtain ⟨name, hname⟩ := Option.isSome_iff_exists.mp h
  obtain ⟨l₁, l₂, hsplit, -⟩ := List.lookup_eq_some_iff.mp hname
  obtain ⟨codec, e, hfind, hencoding, he⟩ := htable (_, name)
    (hsplit ▸ List.mem_append_right l₁ List.mem_cons_self)
  refine ⟨codec, e, ?_, hencoding, he⟩
  rw [codecOf, codecOfPlain, hname]
  simp only [hfind]

theorem not_refusesBytes_of_server {given : Text} (h : isServerName given = true) (data : Bytes) :
    ¬RefusesBytes given data := by
  rintro ⟨-, -, codec, hcodec, hrefuses⟩
  obtain ⟨codec', e, hcodec', hencoding, he⟩ := exists_codecOf_server h
  obtain rfl : codec = codec' := Except.ok.inj (hcodec.symm.trans hcodec')
  exact decode?_ne_none he data (hrefuses e hencoding)

variable {now : Moment} {stamp : Text}

theorem convertText_of_ne_dump {kind : InputKind} (hkind : kind ≠ .dump) (o : Options) (p : Path)
    (t : Text) : convertText o now p kind t =
      (readRecords kind t >>= fun records =>
        recordsText o now (tableFor o p) records >>= fun text => .ok ⟨text, []⟩) := by
  cases kind with
  | dump => exact absurd rfl hkind
  | csv => rfl
  | json => rfl

/-- Two comma-separated files. The carriage return in the first one ends no line. -/
def commaFiles : Folder :=
  { nodes := [(["return.csv".toList], .file ("a,b\r1,2".toList.flatMap String.utf8EncodeChar)),
      (["feed.csv".toList], .file ("a,b\n1,2".toList.flatMap String.utf8EncodeChar))] }

/-- The options that nothing is asked of. -/
def plainOptions : Options :=
  { source := "auto", target := "utf8mb4", readable := by decide, writable := by decide +kernel }

/-- A moment of the year 2024. -/
def plainMoment : Moment := ⟨⟨2024, 1, 2⟩, 3, 4, 5, 0, some 0⟩

end SchemaMill.Conversion
