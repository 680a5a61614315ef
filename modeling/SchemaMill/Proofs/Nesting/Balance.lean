import SchemaMill.Proofs.Lexing.Gaps
import SchemaMill.Proofs.Reading.References

/-!
# Balance of a statement

The depth behind some tokens is the number of parentheses that they leave open. The counters of the
reader keep it in three places: in the group of the elements, in the group of the arguments of a
type, and in the table options. What they find is told by depths alone (`openAfter_eq_some_iff`,
`isSome_openAfter`, `closeGroup_eq_none_iff`).

In front of the table options a statement that is read is balanced, since the words and the name in
front of the elements are no parentheses (`isSign_of_isIdentifier`). In the table options no
parenthesis closes that was not opened, but some may stay open. So a statement that is read is
balanced if and only if its table options are (`balance_readTable`). A group behind the type of a
column is never refused: the tokens of an element are balanced (`isBalanced_of_mem_splitElements`).
-/

namespace SchemaMill.Sql

/-! ### Depths -/

/-- How many more parentheses open than close among some tokens. -/
def depth (ts : List Token) : Int := (ts.map Token.change).sum

/-- No parenthesis closes that was not opened. -/
def StaysOpen (ts : List Token) : Prop := ∀ us, us <+: ts → 0 ≤ depth us

/-- No parenthesis closes that was not opened, and in the end all are closed. -/
structure Balanced (ts : List Token) : Prop where
  staysOpen : StaysOpen ts
  depth_eq : depth ts = 0

section Depths

variable {d e k : Nat} {t : Token} {ts us : List Token}

@[simp] theorem depth_nil : depth [] = 0 := rfl

@[simp] theorem depth_cons (t : Token) (ts : List Token) :
    depth (t :: ts) = t.change + depth ts := rfl

@[simp] theorem depth_append (ts us : List Token) : depth (ts ++ us) = depth ts + depth us := by
  simp [depth]

theorem Token.change_of_open (h : t.isSign '(') : t.change = 1 := by
  simp [change, depthAfter, h]

theorem Token.change_of_close (h : t.isSign ')') : t.change = -1 := by
  simp [change, depthAfter, h, isSign_of_ne h (show ')' ≠ '(' by decide)]

theorem forall_prefix_cons {α : Type} {P : List α → Prop} {a : α} {as : List α} :
    (∀ us, us <+: a :: as → P us) ↔ P [] ∧ ∀ us, us <+: as → P (a :: us) := by
  constructor
  · intro h
    exact ⟨h [] List.nil_prefix, fun us hus => h _ (List.cons_prefix_cons.mpr ⟨rfl, hus⟩)⟩
  · rintro ⟨hnil, hcons⟩ us hus
    rcases List.prefix_cons_iff.mp hus with rfl | ⟨more, rfl, hmore⟩
    · exact hnil
    · exact hcons more hmore

/-- Behind one more token the count goes on from what the token changes it to. -/
theorem openAfter_cons_eq_some_iff :
    openAfter d (t :: ts) = some e ↔ ∃ d' : Nat, (d' : Int) = d + t.change ∧
      openAfter d' ts = some e := by
  have hgoes {d' : Nat} (h : (d' : Int) = d + t.change) : openAfter d' ts = some e ↔
      ∃ d' : Nat, (d' : Int) = d + t.change ∧ openAfter d' ts = some e := by
    refine ⟨fun hts => ⟨d', h, hts⟩, ?_⟩
    rintro ⟨d'', h', hts⟩
    rwa [Int.ofNat_inj.mp (h.trans h'.symm)]
  simp only [openAfter]
  split
  · next hopen => exact hgoes (by simp [Token.change_of_open hopen])
  · next hopen =>
    split
    · next hclose =>
      have hchange := Token.change_of_close hclose
      cases d with
      | zero =>
        constructor
        · intro h
          cases h
        · rintro ⟨d', hd', -⟩
          omega
      | succ d => exact hgoes (by omega)
    · next hclose => exact hgoes (by simp [Token.change, depthAfter, hopen, hclose])

theorem depthAfter_eq (x : Int) (t : Token) : depthAfter x t = x + t.change := by
  simp only [Token.change, depthAfter]
  split
  · omega
  · split <;> omega

/-- What is counted as open is the depth, if it is never below that at which the count began. -/
theorem openAfter_eq_some_iff :
    openAfter d ts = some e ↔ (∀ us, us <+: ts → 0 ≤ d + depth us) ∧ d + depth ts = e := by
  induction ts generalizing d with
  | nil => simp [openAfter]
  | cons t ts ih =>
    rw [openAfter_cons_eq_some_iff, forall_prefix_cons]
    constructor
    · rintro ⟨d', hd', hts⟩
      obtain ⟨hstays, hend⟩ := ih.mp hts
      refine ⟨⟨by simp, fun us hus => ?_⟩, ?_⟩
      · have hnonneg := hstays us hus
        rw [depth_cons]
        omega
      · rw [depth_cons]
        omega
    · rintro ⟨⟨-, hstays⟩, hend⟩
      have hfirst := hstays [] List.nil_prefix
      simp only [depth_cons, depth_nil] at hfirst hstays hend
      obtain ⟨d', hd'⟩ := Int.eq_ofNat_of_zero_le hfirst
      refine ⟨d', by omega, ih.mpr ⟨fun us hus => ?_, by omega⟩⟩
      have hnonneg := hstays us hus
      omega

theorem isBalanced_iff : isBalanced ts ↔ Balanced ts := by
  rw [isBalanced, beq_iff_eq, openAfter_eq_some_iff]
  constructor
  · rintro ⟨hstays, hend⟩
    exact ⟨fun us hus => by simpa using hstays us hus, by simpa using hend⟩
  · rintro ⟨hstays, hend⟩
    exact ⟨fun us hus => by simpa using hstays us hus, by simpa using hend⟩

theorem isSome_openAfter : (openAfter d ts).isSome ↔ staysOpen d ts := by
  fun_induction openAfter d ts <;> simp_all [staysOpen]

theorem openAfter_add (h : openAfter d ts = some e) (k : Nat) :
    openAfter (d + k) ts = some (e + k) := by
  obtain ⟨hstays, hend⟩ := openAfter_eq_some_iff.mp h
  refine openAfter_eq_some_iff.mpr ⟨fun us hus => ?_, by omega⟩
  have hnonneg := hstays us hus
  omega

theorem openAfter_of_change (h : ∀ t ∈ ts, t.change = 0) : openAfter d ts = some d := by
  induction ts with
  | nil => rfl
  | cons t ts ih =>
    obtain ⟨ht, hts⟩ := List.forall_mem_cons.mp h
    exact openAfter_cons_eq_some_iff.mpr ⟨d, by omega, ih hts⟩

/-- A group does not end if the depth is never below that at which it began. -/
theorem closeGroup_eq_none_iff : closeGroup (d + 1) ts = none ↔ (openAfter d ts).isSome := by
  induction ts generalizing d with
  | nil => simp [closeGroup, openAfter]
  | cons t ts ih =>
    simp only [closeGroup, openAfter]
    split
    · rw [Option.map_eq_none_iff, ih]
    · split
      · cases d with
        | zero => simp
        | succ d => rw [Option.map_eq_none_iff, ih]
      · rw [Option.map_eq_none_iff, ih]

/-- A group that is never closed leaves parentheses open. -/
theorem openAfter_ne_zero (h : closeGroup 1 ts = none) : openAfter (k + 1) ts ≠ some 0 := by
  obtain ⟨e, he⟩ := Option.isSome_iff_exists.mp (closeGroup_eq_none_iff.mp h)
  have hmore := openAfter_add he (k + 1)
  rw [Nat.zero_add] at hmore
  rw [hmore]
  simp

end Depths

/-! ### Tokens that are no parentheses -/

section Signs

variable {t : Token} {ts : List Token}

theorem Token.change_of_not_isSign (h : t.isSign '(' = false ∧ t.isSign ')' = false) :
    t.change = 0 := by
  simp [change, depthAfter, h]

theorem Token.change_of_isSign {c : Char} (h : t.isSign c) (hopen : c ≠ '(') (hclose : c ≠ ')') :
    t.change = 0 :=
  change_of_not_isSign ⟨isSign_of_ne h hopen, isSign_of_ne h hclose⟩

theorem kind_of_lexeme? {before : Option Char} {x rest : Text} {l : Lexeme} {c : Char}
    (hc : c = '(' ∨ c = ')') (h : lexeme? before x = some (l, rest)) (hl : l.value.head? = some c) :
    l.kind = .punctuation := by
  have hrules : ∀ rule ∈ lexicalRules, rule.1.begins '(' ∨ rule.1.begins ')' →
      rule.2 = .punctuation := by decide
  have hspan : c ≠ '/' ∧ c ≠ '$' := by
    rcases hc with rfl | rfl <;> decide
  obtain ⟨p, hp, hbegins⟩ := exists_rule_of_lexeme? h hl hspan
  rcases hc with rfl | rfl
  · exact hrules _ hp (.inl hbegins)
  · exact hrules _ hp (.inr hbegins)

theorem isSign_of_isIdentifier {sql : Text} (h : tokenize sql = .ok ts) (ht : t ∈ ts)
    (hidentifier : t.isIdentifier) : t.isSign '(' = false ∧ t.isSign ')' = false := by
  obtain ⟨before, x, rest, hlexeme⟩ := exists_lexeme?_of_tokenize h ht
  have hne {c : Char} (hc : c = '(' ∨ c = ')') : t.isSign c = false := by
    rw [Bool.eq_false_iff]
    intro hsign
    have hvalue : t.value = [c] := beq_iff_eq.mp hsign
    have hkind : t.kind = .punctuation := kind_of_lexeme? hc hlexeme (by rw [hvalue]; rfl)
    rw [Token.isIdentifier, hkind] at hidentifier
    cases hidentifier
  exact ⟨hne (.inl rfl), hne (.inr rfl)⟩

theorem Dotted.of_mem {named : List Token} {last : Token} (h : Dotted named last) :
    ∀ t ∈ named, t.isIdentifier ∨ t.isSign '.' := by
  induction h with
  | last ht => simp [ht]
  | qualifier ht hdot _ ih => simpa [ht, hdot] using ih

end Signs

/-! ### Elements -/

section Elements

variable {ts : List Token} {e : ReadError}

/-- Commas outside parentheses cut balanced tokens into balanced ones. -/
theorem openAfter_of_splitAtCommas {d : Nat} {chunk : List Token} {chunks : List (List Token)}
    (h : openAfter d ts = some 0) (hsplit : splitAtCommas d ts = chunk :: chunks) :
    openAfter d chunk = some 0 ∧ ∀ us ∈ chunks, openAfter 0 us = some 0 := by
  induction ts generalizing d chunk chunks with
  | nil =>
    cases hsplit
    exact ⟨h, by simp⟩
  | cons t ts ih =>
    obtain ⟨d', hd', hts⟩ := openAfter_cons_eq_some_iff.mp h
    by_cases hcomma : (t.isSign ',' && (d : Int) == 0) = true
    · rw [splitAtCommas, if_pos hcomma] at hsplit
      cases hsplit
      simp only [Bool.and_eq_true, beq_iff_eq] at hcomma
      have hchange : t.change = 0 := Token.change_of_isSign hcomma.1 (by decide) (by decide)
      obtain rfl : d = 0 := by omega
      obtain rfl : d' = 0 := by omega
      obtain ⟨first, more, hmore⟩ := List.exists_cons_of_ne_nil (splitAtCommas_ne_nil 0 ts)
      obtain ⟨hfirst, hrest⟩ := ih hts hmore
      refine ⟨rfl, ?_⟩
      intro us hus
      change us ∈ splitAtCommas 0 ts at hus
      rw [hmore] at hus
      rcases List.mem_cons.mp hus with rfl | hus
      · exact hfirst
      · exact hrest us hus
    · obtain ⟨first, more, hmore⟩ := List.exists_cons_of_ne_nil (splitAtCommas_ne_nil d' ts)
      have hdepth : depthAfter d t = d' := by rw [depthAfter_eq, hd']
      rw [splitAtCommas_cons (by simpa using hcomma) (by rw [hdepth]; exact hmore)] at hsplit
      cases hsplit
      obtain ⟨hfirst, hrest⟩ := ih hts hmore
      exact ⟨openAfter_cons_eq_some_iff.mpr ⟨d', hd', hfirst⟩, hrest⟩

theorem isBalanced_of_mem_splitElements {body : List Token} (h : isBalanced body)
    (hts : ts ∈ splitElements body) : isBalanced ts := by
  obtain ⟨chunk, chunks, hsplit⟩ := List.exists_cons_of_ne_nil (splitAtCommas_ne_nil 0 body)
  obtain ⟨hchunk, hchunks⟩ := openAfter_of_splitAtCommas (beq_iff_eq.mp h) hsplit
  have hmem := (List.mem_filter.mp hts).1
  rw [hsplit] at hmem
  rcases List.mem_cons.mp hmem with rfl | hmem
  · exact beq_iff_eq.mpr hchunk
  · exact beq_iff_eq.mpr (hchunks ts hmem)

/-- Behind the type of a column whose tokens are balanced, a group ends. -/
theorem closeGroup_ne_none {name type opening : Token} {rest : List Token}
    (h : isBalanced (name :: type :: opening :: rest)) (hopen : opening.isSign '(') :
    closeGroup 1 rest ≠ none := by
  obtain ⟨d, -, h⟩ := openAfter_cons_eq_some_iff.mp (beq_iff_eq.mp h)
  obtain ⟨d, -, h⟩ := openAfter_cons_eq_some_iff.mp h
  simp only [openAfter, if_pos hopen] at h
  exact fun hnone => openAfter_ne_zero hnone h

/-- Balanced tokens are refused as an element only if they are those of a column without a type. -/
theorem of_readElement_eq_error (h : readElement ts = .error e) (hbalanced : isBalanced ts) :
    e = .noColumns ∨ ∃ column, e = .noType column := by
  cases ts with
  | nil => cases h; exact .inl rfl
  | cons name ts =>
    rw [readElement] at h
    split at h
    · cases h
    · cases ts with
      | nil => cases h; exact .inr ⟨_, rfl⟩
      | cons type ts =>
        cases hparen : ts.head?.any (·.isSign '(') with
        | false => rw [readColumn_bare name type hparen] at h; cases h
        | true =>
          cases ts with
          | nil => cases hparen
          | cons opening rest =>
            have hopen : opening.isSign '(' := hparen
            cases hclosed : closeGroup 1 rest with
            | none => exact absurd hclosed (closeGroup_ne_none hbalanced hopen)
            | some found =>
              obtain ⟨args, after⟩ := found
              obtain ⟨closing, rfl, hclose, hargs⟩ := exists_of_closeGroup hclosed
              rw [readColumn_args name type hargs hopen hclose] at h
              cases h

theorem exists_of_mapM_eq_error {chunks : List (List Token)}
    (h : chunks.mapM readElement = .error e) : ∃ chunk ∈ chunks, readElement chunk = .error e := by
  induction chunks with
  | nil => cases h
  | cons chunk chunks ih =>
    rw [List.mapM_cons] at h
    cases helement : readElement chunk with
    | error e' =>
      rw [helement] at h
      cases h
      exact ⟨chunk, List.mem_cons_self, helement⟩
    | ok element =>
      cases hrest : chunks.mapM readElement with
      | ok es => rw [helement, hrest] at h; cases h
      | error e' =>
        rw [helement, hrest] at h
        cases h
        obtain ⟨chunk', hchunk, herror⟩ := ih hrest
        exact ⟨chunk', List.mem_cons_of_mem _ hchunk, herror⟩

end Elements

/-! ### Statements -/

/-- What comes of the tokens behind the table name: a table whose options close no parenthesis that
was not opened, or an error. -/
inductive BodyRead (head : List Token) (name : QualifiedName) :
    List Token → Except ReadError Table → Prop where
  | table {inner tail : List Token} {es : Option (List Element)} (hinner : ElementsFrom inner es)
    (htail : staysOpen 0 tail) : BodyRead head name (inner ++ tail) (.ok ⟨head, name, es, tail⟩)
  | tail {inner tail : List Token} {es : Option (List Element)} (hinner : ElementsFrom inner es)
    (htail : staysOpen 0 tail = false) : BodyRead head name (inner ++ tail) (.error .unbalanced)
  | unclosed {opening : Token} {rest : List Token} (hopen : opening.isSign '(')
    (hclosed : closeGroup 1 rest = none) :
    BodyRead head name (opening :: rest) (.error .unbalanced)
  | empty {opening closing : Token} {body tail : List Token} (hopen : opening.isSign '(')
    (hclose : closing.isSign ')') (hbody : isBalanced body) (hempty : splitElements body = []) :
    BodyRead head name (opening :: (body ++ closing :: tail)) (.error .noColumns)
  | element {opening closing : Token} {body tail chunk : List Token} {e : ReadError}
    (hopen : opening.isSign '(') (hclose : closing.isSign ')') (hbody : isBalanced body)
    (hchunk : chunk ∈ splitElements body) (herror : readElement chunk = .error e) :
    BodyRead head name (opening :: (body ++ closing :: tail)) (.error e)

theorem bodyRead (head : List Token) (name : QualifiedName) (ts : List Token) :
    BodyRead head name ts (readBody head name ts) := by
  cases ts with
  | nil => exact .table .none rfl
  | cons t rest =>
    simp only [readBody]
    split
    · next hopen =>
      split
      · next hclosed => exact .unclosed hopen hclosed
      · next body tail hclosed =>
        obtain ⟨closing, rfl, hclose, hbody⟩ := exists_of_closeGroup hclosed
        split
        · next hempty => exact .empty hopen hclose hbody hempty
        · cases hes : (splitElements body).mapM readElement with
          | error e =>
            obtain ⟨chunk, hchunk, herror⟩ := exists_of_mapM_eq_error hes
            exact .element hopen hclose hbody hchunk herror
          | ok es =>
            have hinner := ElementsFrom.some hopen hclose hbody (forall₂_of_mapM hes)
            have hts : t :: (body ++ closing :: tail) = t :: (body ++ [closing]) ++ tail := by simp
            rw [hts]
            simp only [bind, Except.bind]
            split
            · next htail => exact .table hinner htail
            · next htail => exact .tail hinner (Bool.eq_false_iff.mpr htail)
    · split
      · next htail => exact .table .none htail
      · next htail => exact .tail .none (Bool.eq_false_iff.mpr htail)

section Statements

variable {head ts : List Token} {name : QualifiedName} {sql : Text} {t : Table}

theorem openAfter_inner {inner : List Token} {es : Option (List Element)}
    (h : ElementsFrom inner es) : openAfter 0 inner = some 0 := by
  cases h with
  | none => rfl
  | @some opening closing body _ hopen hclose hbody =>
    have hbody' := openAfter_add (beq_iff_eq.mp hbody) 1
    have hclose' : closing.isSign '(' = false := Token.isSign_of_ne hclose (by decide)
    rw [openAfter, if_pos hopen, openAfter_append hbody']
    simp [openAfter, hclose, hclose']

theorem not_isBalanced_of_readBody (h : readBody head name ts = .error .unbalanced) :
    ¬isBalanced ts := by
  have hread := bodyRead head name ts
  rw [h] at hread
  rw [isBalanced, beq_iff_eq]
  cases hread with
  | tail hinner htail =>
    rw [openAfter_append (openAfter_inner hinner)]
    intro hopen
    rw [← Bool.not_eq_true, ← isSome_openAfter, hopen] at htail
    exact htail rfl
  | unclosed hopen hclosed =>
    rw [openAfter, if_pos hopen]
    exact openAfter_ne_zero hclosed
  | element _ _ hbody hchunk herror =>
    rcases of_readElement_eq_error herror (isBalanced_of_mem_splitElements hbody hchunk) with
      h | ⟨_, h⟩ <;> cases h

theorem readBody_ne_unbalancedType (column : Text) :
    readBody head name ts ≠ .error (.unbalancedType column) := by
  intro h
  have hread := bodyRead head name ts
  rw [h] at hread
  cases hread with
  | element _ _ hbody hchunk herror =>
    rcases of_readElement_eq_error herror (isBalanced_of_mem_splitElements hbody hchunk) with
      h | ⟨_, h⟩ <;> cases h

theorem exists_of_readBody (h : readBody head name ts = .ok t) :
    ∃ inner e, ts = inner ++ t.options ∧ openAfter 0 inner = some 0 ∧
      openAfter 0 t.options = some e := by
  have hread := bodyRead head name ts
  rw [h] at hread
  cases hread with
  | table hinner htail =>
    obtain ⟨e, he⟩ := Option.isSome_iff_exists.mp (isSome_openAfter.mpr htail)
    exact ⟨_, e, rfl, openAfter_inner hinner, he⟩

/-- Tokens are read from the words in front, the table name and what is behind it, or refused for
the lack of the former. -/
theorem readTokens_cases (ts : List Token) :
    (∃ e, readTokens ts = .error e ∧ e ∈ [ReadError.notCreate, .notTable, .noTableName]) ∨
      ∃ head named name rest, dropTerminators ts = head ++ (named ++ rest) ∧
        (∀ u ∈ head, u.word ∈ headWords) ∧ readName (named ++ rest) = some (name, rest) ∧
          readTokens ts = readBody head name rest := by
  simp only [readTokens]
  generalize dropTerminators ts = us
  split
  · exact .inl ⟨_, rfl, by simp⟩
  · split
    · exact .inl ⟨_, rfl, by simp⟩
    · split
      · exact .inl ⟨_, rfl, by simp⟩
      · next name rest hname =>
        obtain ⟨named, hnamed, -⟩ := exists_of_readName hname
        refine .inr ⟨_, named, name, rest, ?_, ?_, by rw [← hnamed, hname], rfl⟩
        · rw [← hnamed, List.takeWhile_append_dropWhile]
        · intro u hu
          simpa using List.mem_takeWhile_imp hu

/-- The words and the name in front of the elements are no parentheses. -/
theorem openAfter_front {named rest : List Token} (htokens : tokenize sql = .ok ts)
    (hrow : dropTerminators ts = head ++ (named ++ rest)) (hhead : ∀ u ∈ head, u.word ∈ headWords)
    (hname : readName (named ++ rest) = some (name, rest)) :
    openAfter 0 (head ++ named) = some 0 := by
  refine openAfter_of_change fun u hu => ?_
  rcases List.mem_append.mp hu with hu | hu
  · have hwords : ∀ w ∈ headWords, w ∉ bareWords := by decide
    exact Token.change_of_word (hwords _ (hhead u hu))
  · obtain ⟨named', last, hnamed, hdotted, -⟩ := exists_dotted_of_readName hname
    obtain rfl := List.append_cancel_right hnamed
    rcases hdotted.of_mem u hu with hidentifier | hdot
    · obtain ⟨ends, hends, -⟩ := exists_terminators ts
      have hmem : u ∈ ts := by
        rw [hends, hrow]
        simp [hu]
      exact Token.change_of_not_isSign (isSign_of_isIdentifier htokens hmem hidentifier)
    · exact Token.change_of_isSign hdot (by decide) (by decide)

theorem exists_front_of_readTable (h : readTable sql = .ok t) :
    ∃ ts front, tokenize sql = .ok ts ∧ dropTerminators ts = front ++ t.options ∧
      Balanced front ∧ StaysOpen (dropTerminators ts) ∧
        depth (dropTerminators ts) = depth t.options := by
  rw [readTable] at h
  split at h
  · cases h
  · next ts htokens =>
    rcases readTokens_cases ts with
      ⟨e, herror, -⟩ | ⟨head, named, name, rest, hrow, hhead, hname, hbody⟩
    · rw [herror] at h; cases h
    · rw [hbody] at h
      obtain ⟨inner, e, rfl, hinner, he⟩ := exists_of_readBody h
      have hfront : openAfter 0 (head ++ named ++ inner) = some 0 := by
        rw [openAfter_append (openAfter_front htokens hrow hhead hname), hinner]
      have hrow' : dropTerminators ts = head ++ named ++ inner ++ t.options := by
        rw [hrow]; simp
      have hall : openAfter 0 (dropTerminators ts) = some e := by
        rw [hrow', openAfter_append hfront, he]
      obtain ⟨hstays, hdepth⟩ := openAfter_eq_some_iff.mp hall
      have hoptions := (openAfter_eq_some_iff.mp he).2
      refine ⟨ts, _, htokens, hrow', isBalanced_iff.mp (beq_iff_eq.mpr hfront), ?_, by omega⟩
      exact fun us hus => by simpa using hstays us hus

/-- A statement whose parentheses are refused does not balance. -/
theorem not_isBalanced_of_readTokens (htokens : tokenize sql = .ok ts)
    (h : readTokens ts = .error .unbalanced) : ¬isBalanced (dropTerminators ts) := by
  rcases readTokens_cases ts with
    ⟨e, herror, he⟩ | ⟨head, named, name, rest, hrow, hhead, hname, hbody⟩
  · rw [herror] at h
    cases h
    simp at he
  · rw [hbody] at h
    have hfront := openAfter_front htokens hrow hhead hname
    rw [isBalanced, hrow, ← List.append_assoc, openAfter_append hfront]
    exact not_isBalanced_of_readBody h

theorem readTokens_ne_unbalancedType (column : Text) :
    readTokens ts ≠ .error (.unbalancedType column) := by
  rcases readTokens_cases ts with ⟨e, herror, he⟩ | ⟨head, named, name, rest, -, -, -, hbody⟩
  · rw [herror]
    rintro ⟨⟩
    simp at he
  · rw [hbody]
    exact readBody_ne_unbalancedType column

/-- A statement that is read is balanced in front of its table options, in which parentheses may
stay open, but none closes that was not opened. So one with parentheses that do not balance is
refused, or it leaves some open in its table options. One that is refused for its parentheses does
not balance, and none is refused for those behind a type. -/
theorem balance_readTable (sql : Text) :
    (∀ t, readTable sql = .ok t → ∃ ts front, tokenize sql = .ok ts ∧
      dropTerminators ts = front ++ t.options ∧ Balanced front ∧ StaysOpen (dropTerminators ts) ∧
        depth (dropTerminators ts) = depth t.options) ∧
      (∀ ts, tokenize sql = .ok ts → ¬Balanced (dropTerminators ts) →
        (∃ e, readTable sql = .error e) ∨ ∃ t, readTable sql = .ok t ∧ 0 < depth t.options) ∧
      (∀ ts, tokenize sql = .ok ts → readTable sql = .error .unbalanced →
        ¬Balanced (dropTerminators ts)) ∧
      ∀ column, readTable sql ≠ .error (.unbalancedType column) := by
  have hread {ts : List Token} (htokens : tokenize sql = .ok ts) :
      readTable sql = readTokens ts := by rw [readTable, htokens]
  refine ⟨fun t => exists_front_of_readTable, fun ts htokens hbalanced => ?_,
    fun ts htokens h hbalanced => ?_, fun column h => ?_⟩
  · cases h : readTable sql with
    | error e => exact .inl ⟨e, rfl⟩
    | ok t =>
      obtain ⟨ts', front, htokens', hrow, -, hstays, hdepth⟩ := exists_front_of_readTable h
      rw [htokens] at htokens'
      cases htokens'
      have hne : depth (dropTerminators ts) ≠ 0 := fun hzero => hbalanced ⟨hstays, hzero⟩
      have hnonneg := hstays _ List.prefix_rfl
      exact .inr ⟨t, rfl, by omega⟩
  · rw [hread htokens] at h
    exact not_isBalanced_of_readTokens htokens h (isBalanced_iff.mpr hbalanced)
  · cases htokens : tokenize sql with
    | error c => rw [readTable, htokens] at h; cases h
    | ok ts =>
      rw [hread htokens] at h
      exact readTokens_ne_unbalancedType column h

/-- A statement in whose table options a parenthesis stays open. -/
def unclosedOptions : Text := "CREATE TABLE t (id INT) PARTITION BY HASH (id"

/-- It is read, although its parentheses do not balance. -/
theorem balance_unclosedOptions : ∃ t ts, readTable unclosedOptions = .ok t ∧
    tokenize unclosedOptions = .ok ts ∧ ¬Balanced (dropTerminators ts) ∧
      StaysOpen (dropTerminators ts) ∧ depth (dropTerminators ts) = depth t.options ∧
        depth t.options = 1 := by
  have hsome : (readTable unclosedOptions).toOption.map (fun t => depth t.options) = some 1 := by
    decide +kernel
  obtain ⟨t, hread, hoptions⟩ := exists_of_map_readTable hsome
  obtain ⟨ts, front, htokens, -, -, hstays, hdepth⟩ :=
    (balance_readTable unclosedOptions).1 t hread
  refine ⟨t, ts, hread, htokens, fun hbalanced => ?_, hstays, hdepth, hoptions⟩
  have hzero := hbalanced.depth_eq
  omega

end Statements

end SchemaMill.Sql
