import RecordSql.Proofs.Statement.Joins

/-! Precedence: what a predicate says that is read as a text, where `AND` binds tighter than `OR`.
The further predicate of a join stands behind the equality without brackets, so the equality is
asked for together with the first of its alternatives only. -/

namespace RecordSql

/-! ### Lexemes -/

/-- What predicates are written with. -/
inductive Lexeme where
  | word (s : String)
  | sign (s : String)
  | and
  | or
  | opening
  | closing
  deriving DecidableEq

namespace Lexeme

/-- A lexeme that may go on, its last character first; a quoted part goes on up to the next quote of
its kind. -/
inductive Begun where
  | nothing
  | word (cs : List Char)
  | sign (cs : List Char)
  | quoted (quote : Char) (cs : List Char)

/-- The words that are none, in capitals. -/
def keywords : Assoc String Lexeme :=
  [("AND", and), ("OR", or), ("LIKE", sign "LIKE"), ("IS", sign "IS")]

def signs : List String := ["=", "<>", "!=", "<", "<=", ">", ">="]

def isSignChar (c : Char) : Bool := c = '=' || c = '<' || c = '>' || c = '!'

def isQuote (c : Char) : Bool := c = '\'' || c = '"' || c = '\x60'

/-- Two characters that begin a comment. -/
def isComment (c d : Char) : Bool := c = '-' && d = '-' || c = '/' && d = '*'

namespace Begun

/-- The lexeme that ends here, if there is one. -/
def ended : Begun → Option (List Lexeme)
  | nothing => some []
  | word cs =>
    let s := String.ofList (cs.reverse.map Char.toUpper)
    some [(Assoc.get? keywords s).getD (.word (String.ofList cs.reverse))]
  | sign cs =>
    let s := String.ofList cs.reverse
    if s ∈ signs then some [.sign s] else none
  | quoted _ _ => none

/-- What a character ends, and what is begun behind it. Comments are not read. -/
def next (b : Begun) (c : Char) : Option (List Lexeme × Begun) :=
  match b with
  | quoted quote cs => some ([], if c = quote then word (c :: cs) else quoted quote (c :: cs))
  | b =>
    if c.isWhitespace then b.ended.map (·, nothing)
    else if c = '(' then b.ended.map (· ++ [opening], nothing)
    else if c = ')' then b.ended.map (· ++ [closing], nothing)
    else
      match b with
      | word (d :: cs) =>
        if isComment d c then none
        else if isSignChar c then b.ended.map (·, sign [c])
        else some ([], if isQuote c then quoted c (c :: d :: cs) else word (c :: d :: cs))
      | sign cs =>
        if isSignChar c then some ([], sign (c :: cs))
        else b.ended.map (·, if isQuote c then quoted c [c] else word [c])
      | b => b.ended.map (·, if isSignChar c then sign [c]
          else if isQuote c then quoted c [c] else word [c])

end Begun

/-- The lexemes of a text from some place on. -/
def scan (b : Begun) : List Char → Option (List Lexeme)
  | [] => b.ended
  | c :: cs => (b.next c).bind fun step => (scan step.2 cs).map (step.1 ++ ·)

/-- The lexemes of a text, if its quoted parts end. -/
def ofText (s : String) : Option (List Lexeme) := scan .nothing s.toList

end Lexeme

/-! ### Predicates -/

/-- A comparison of two words. -/
structure Comparison where
  left : String
  sign : String
  right : String
  deriving DecidableEq

mutual

/-- Alternatives, one of which is to hold. -/
inductive Predicate where
  | only (a : Alternative)
  | either (a : Alternative) (others : Predicate)

/-- Conditions that are to hold together. -/
inductive Alternative where
  | only (f : Factor)
  | both (f : Factor) (others : Alternative)

/-- A comparison, or a predicate in brackets. -/
inductive Factor where
  | comparison (c : Comparison)
  | group (p : Predicate)

end

mutual

/-- What a predicate is written as. -/
def Predicate.lexemes : Predicate → List Lexeme
  | .only a => a.lexemes
  | .either a others => a.lexemes ++ .or :: others.lexemes

def Alternative.lexemes : Alternative → List Lexeme
  | .only f => f.lexemes
  | .both f others => f.lexemes ++ .and :: others.lexemes

def Factor.lexemes : Factor → List Lexeme
  | .comparison c => [.word c.left, .sign c.sign, .word c.right]
  | .group p => .opening :: p.lexemes ++ [.closing]

end

mutual

/-- Whether a predicate holds, given the comparisons that hold. -/
def Predicate.Holds (holds : Comparison → Prop) : Predicate → Prop
  | .only a => a.Holds holds
  | .either a others => a.Holds holds ∨ others.Holds holds

def Alternative.Holds (holds : Comparison → Prop) : Alternative → Prop
  | .only f => f.Holds holds
  | .both f others => f.Holds holds ∧ others.Holds holds

def Factor.Holds (holds : Comparison → Prop) : Factor → Prop
  | .comparison c => holds c
  | .group p => p.Holds holds

end

mutual

/-- A predicate can be told from what it is written as, with anything behind it that does not go on
with it. -/
theorem Predicate.readable {l m : List Lexeme} (hl : l.head? ≠ some .and ∧ l.head? ≠ some .or)
    (hm : m.head? ≠ some .and ∧ m.head? ≠ some .or) :
    ∀ p q : Predicate, p.lexemes ++ l = q.lexemes ++ m → p = q ∧ l = m
  | .only a, .only b, h => by
    obtain ⟨rfl, hlm⟩ := a.readable hl.1 hm.1 b h
    exact ⟨rfl, hlm⟩
  | .only a, .either b q, h => by
    rw [Predicate.lexemes, Predicate.lexemes, List.append_assoc] at h
    obtain ⟨-, rfl⟩ := a.readable hl.1 (by simp) b h
    simp at hl
  | .either a p, .only b, h => by
    rw [Predicate.lexemes, Predicate.lexemes, List.append_assoc] at h
    obtain ⟨-, rfl⟩ := a.readable (by simp) hm.1 b h
    simp at hm
  | .either a p, .either b q, h => by
    rw [Predicate.lexemes, Predicate.lexemes, List.append_assoc, List.append_assoc] at h
    obtain ⟨rfl, hrest⟩ := a.readable (by simp) (by simp) b h
    obtain ⟨rfl, hlm⟩ := p.readable hl hm q (List.cons.inj hrest).2
    exact ⟨rfl, hlm⟩

theorem Alternative.readable {l m : List Lexeme} (hl : l.head? ≠ some .and)
    (hm : m.head? ≠ some .and) :
    ∀ a b : Alternative, a.lexemes ++ l = b.lexemes ++ m → a = b ∧ l = m
  | .only f, .only g, h => by
    obtain ⟨rfl, hlm⟩ := f.readable g h
    exact ⟨rfl, hlm⟩
  | .only f, .both g b, h => by
    rw [Alternative.lexemes, Alternative.lexemes, List.append_assoc] at h
    obtain ⟨-, rfl⟩ := f.readable g h
    simp at hl
  | .both f a, .only g, h => by
    rw [Alternative.lexemes, Alternative.lexemes, List.append_assoc] at h
    obtain ⟨-, rfl⟩ := f.readable g h
    simp at hm
  | .both f a, .both g b, h => by
    rw [Alternative.lexemes, Alternative.lexemes, List.append_assoc, List.append_assoc] at h
    obtain ⟨rfl, hrest⟩ := f.readable g h
    obtain ⟨rfl, hlm⟩ := a.readable hl hm b (List.cons.inj hrest).2
    exact ⟨rfl, hlm⟩

theorem Factor.readable {l m : List Lexeme} :
    ∀ f g : Factor, f.lexemes ++ l = g.lexemes ++ m → f = g ∧ l = m
  | .comparison c, .comparison d, h => by
    obtain ⟨left, sign, right⟩ := c
    obtain ⟨left', sign', right'⟩ := d
    simpa [Factor.lexemes, and_assoc] using h
  | .comparison c, .group q, h => by simp [Factor.lexemes] at h
  | .group p, .comparison d, h => by simp [Factor.lexemes] at h
  | .group p, .group q, h => by
    simp only [Factor.lexemes, List.cons_append, List.append_assoc, List.nil_append] at h
    obtain ⟨rfl, hrest⟩ := p.readable (by simp) (by simp) q (List.cons.inj h).2
    exact ⟨rfl, (List.cons.inj hrest).2⟩

end

namespace Predicate

/-- A text that is a predicate. -/
def Reads (s : String) (p : Predicate) : Prop := Lexeme.ofText s = some p.lexemes

/-- The first alternative. -/
def first : Predicate → Alternative
  | only a => a
  | either a _ => a

/-- The later alternatives, if there are any. -/
def others : Predicate → Option Predicate
  | only _ => none
  | either _ p => some p

/-- A predicate behind a further condition and an `AND`. -/
def narrow (f : Factor) : Predicate → Predicate
  | only a => only (.both f a)
  | either a p => either (.both f a) p

variable {s t : String} {p q : Predicate} {f : Factor} {holds : Comparison → Prop}

/-- A text is one predicate at most. -/
theorem Reads.unique (hp : p.Reads s) (hq : q.Reads s) : p = q := by
  have h : p.lexemes ++ [] = q.lexemes ++ [] := by
    rw [List.append_nil, List.append_nil]
    exact Option.some.inj (hp.symm.trans hq)
  exact (readable (by simp) (by simp) p q h).1

theorem lexemes_ne_nil (p : Predicate) : p.lexemes ≠ [] := by
  have hfactor (f : Factor) : f.lexemes ≠ [] := by cases f <;> simp [Factor.lexemes]
  have halternative (a : Alternative) : a.lexemes ≠ [] := by
    cases a with
    | only f => exact hfactor f
    | both f others => simp [Alternative.lexemes]
  cases p with
  | only a => exact halternative a
  | either a others => simp [lexemes]

theorem lexemes_narrow (f : Factor) (p : Predicate) :
    (p.narrow f).lexemes = f.lexemes ++ .and :: p.lexemes := by
  cases p <;> simp [narrow, lexemes, Alternative.lexemes]

theorem holds_iff : p.Holds holds ↔
    p.first.Holds holds ∨ ∃ o, p.others = some o ∧ o.Holds holds := by
  cases p <;> simp [Holds, first, others]

/-- A further condition in front narrows the first alternative only. -/
theorem holds_narrow (holds : Comparison → Prop) (f : Factor) (p : Predicate) :
    (p.narrow f).Holds holds ↔
      f.Holds holds ∧ p.first.Holds holds ∨ ∃ o, p.others = some o ∧ o.Holds holds := by
  cases p <;> simp [narrow, Holds, Alternative.Holds, first, others]

/-- It narrows the whole predicate where no later alternative holds without it. -/
theorem holds_narrow_iff (holds : Comparison → Prop) (f : Factor) (p : Predicate) :
    ((p.narrow f).Holds holds ↔ f.Holds holds ∧ p.Holds holds) ↔
      ∀ o, p.others = some o → o.Holds holds → f.Holds holds := by
  rw [holds_narrow, holds_iff]
  constructor
  · intro h o ho hholds
    exact (h.mp (.inr ⟨o, ho, hholds⟩)).1
  · intro h
    constructor
    · rintro (⟨hf, hfirst⟩ | ⟨o, ho, hholds⟩)
      · exact ⟨hf, .inl hfirst⟩
      · exact ⟨h o ho hholds, .inr ⟨o, ho, hholds⟩⟩
    · rintro ⟨hf, hfirst | hothers⟩
      · exact .inl ⟨hf, hfirst⟩
      · exact .inr hothers

end Predicate

/-! ### Texts one behind the other -/

namespace Lexeme

theorem next_blank {b : Begun} {l : List Lexeme} (h : b.ended = some l) :
    b.next ' ' = some (l, .nothing) := by
  have hblank : ' '.isWhitespace = true := rfl
  cases b with
  | quoted => cases h
  | _ => simp [Begun.next, hblank, h]

/-- A blank ends what is begun, wherever a text could end. -/
theorem scan_append {b : Begun} {cs : List Char} {l : List Lexeme} (h : scan b cs = some l)
    (rest : List Char) :
    scan b (cs ++ ' ' :: rest) = (scan .nothing rest).map (l ++ ·) := by
  induction cs generalizing b l with
  | nil =>
    have hended : b.ended = some l := h
    rw [List.nil_append, scan, next_blank hended, Option.bind_some]
  | cons c cs ih =>
    obtain ⟨step, hstep, hrest⟩ := Option.bind_eq_some_iff.mp h
    obtain ⟨l', hl', rfl⟩ := Option.map_eq_some_iff.mp hrest
    rw [List.cons_append, scan, hstep, Option.bind_some, ih hl']
    simp [Function.comp_def, List.append_assoc]

/-- The lexemes of two texts with a blank in between. -/
theorem ofText_append {s t : String} {l m : List Lexeme} (hs : ofText s = some l)
    (ht : ofText t = some m) : ofText (s ++ " " ++ t) = some (l ++ m) := by
  have htext : (s ++ " " ++ t).toList = s.toList ++ ' ' :: t.toList := by
    simp [String.toList_append]
  rw [ofText, htext, scan_append hs]
  have hrest : scan .nothing t.toList = some m := ht
  rw [hrest, Option.map_some]

end Lexeme

/-- A predicate behind a further condition and an `AND` is read as one. -/
theorem Predicate.Reads.narrow {s t : String} {f : Factor} {p : Predicate}
    (hs : Reads s (.only (.only f))) (ht : p.Reads t) :
    (p.narrow f).Reads (s ++ " AND " ++ t) := by
  have hand : Lexeme.ofText "AND" = some [.and] := by decide
  have htext : s ++ " AND " ++ t = s ++ " " ++ "AND" ++ " " ++ t := by
    simp [String.append_assoc]
  have hs : Lexeme.ofText s = some f.lexemes := hs
  rw [Reads, htext, Lexeme.ofText_append (Lexeme.ofText_append hs hand) ht, lexemes_narrow,
    List.append_assoc]
  rfl

/-! ### Names -/

namespace Lexeme

/-- The characters of names, and the dot between two of them. -/
def isNameChar (c : Char) : Bool := c.isAlphanum || c = '_' || c = '.'

def isName (s : String) : Bool := s.toList.all isNameChar

/-- A word with these characters, the last one first, that may go on. -/
def Begun.ofChars : List Char → Begun
  | [] => nothing
  | c :: cs => word (c :: cs)

/-- A name goes on with each of its characters. -/
theorem next_name {c : Char} (hc : isNameChar c = true) (cs : List Char) :
    (Begun.ofChars cs).next c = some ([], .ofChars (c :: cs)) := by
  have hne (d : Char) (hd : isNameChar d = false) : c ≠ d := by
    rintro rfl
    rw [hc] at hd
    cases hd
  have hspace : c.isWhitespace = false := by
    simp [Char.isWhitespace, hne ' ' (by decide), hne '\t' (by decide), hne '\r' (by decide),
      hne '\n' (by decide)]
  have hsign : isSignChar c = false := by
    simp [isSignChar, hne '=' (by decide), hne '<' (by decide), hne '>' (by decide),
      hne '!' (by decide)]
  have hquote : isQuote c = false := by
    simp [isQuote, hne '\'' (by decide), hne '"' (by decide), hne '\x60' (by decide)]
  have hcomment (d : Char) : isComment d c = false := by
    simp [isComment, hne '-' (by decide), hne '*' (by decide)]
  have hopening : c ≠ '(' := hne '(' (by decide)
  have hclosing : c ≠ ')' := hne ')' (by decide)
  cases cs with
  | nil =>
    simp [Begun.ofChars, Begun.next, Begun.ended, hspace, hsign, hquote, hopening, hclosing]
  | cons d cs =>
    simp [Begun.ofChars, Begun.next, hspace, hsign, hquote, hopening, hclosing, hcomment]

theorem scan_name {cs : List Char} (hcs : ∀ c ∈ cs, isNameChar c = true) (begun : List Char) :
    scan (.ofChars begun) cs = (Begun.ofChars (cs.reverse ++ begun)).ended := by
  induction cs generalizing begun with
  | nil => rfl
  | cons c cs ih =>
    obtain ⟨hc, hcs⟩ := List.forall_mem_cons.mp hcs
    have hreverse : (c :: cs).reverse ++ begun = cs.reverse ++ c :: begun := by simp
    rw [scan, next_name hc, Option.bind_some, ih hcs, hreverse]
    simp

/-- A name with a dot in it is a word. -/
theorem ofText_name {s : String} (hs : isName s = true) (hdot : '.' ∈ s.toList) :
    ofText s = some [.word s] := by
  have hs : ∀ c ∈ s.toList, isNameChar c = true := List.all_eq_true.mp hs
  have hne : s.toList ≠ [] := List.ne_nil_of_mem hdot
  have hword (k : String) (hk : '.' ∉ k.toList) :
      k ≠ String.ofList (s.toList.map Char.toUpper) := by
    rintro rfl
    have hupper : '.' ∈ s.toList.map Char.toUpper := List.mem_map.mpr ⟨'.', hdot, rfl⟩
    rw [String.toList_ofList] at hk
    exact hk hupper
  have hkeyword : Assoc.get? keywords (String.ofList (s.toList.map Char.toUpper)) = none := by
    simp [Assoc.get?, keywords, hword "AND" (by decide), hword "OR" (by decide),
      hword "LIKE" (by decide), hword "IS" (by decide)]
  have hword : Begun.ofChars s.toList.reverse = .word s.toList.reverse := by
    cases hreverse : s.toList.reverse with
    | nil => exact absurd (List.reverse_eq_nil_iff.mp hreverse) hne
    | cons c cs => rfl
  have hscan : scan .nothing s.toList = (Begun.word s.toList.reverse).ended := by
    have h := scan_name hs []
    rwa [List.append_nil, hword] at h
  rw [ofText, hscan, Begun.ended, List.reverse_reverse, hkeyword]
  simp

end Lexeme

/-! ### Joins -/

/-- What every joined pair of rows has to satisfy. -/
def Join.Parts.equality (p : Parts) (tableAlias : String) : String :=
  tableAlias ++ "." ++ p.relation.selfReference ++ " = " ++ p.relation.targetTable ++ "." ++
    p.relation.targetColumn

/-- The comparison that it is. -/
def Join.Parts.comparison (p : Parts) (tableAlias : String) : Comparison :=
  ⟨tableAlias ++ "." ++ p.relation.selfReference, "=",
    p.relation.targetTable ++ "." ++ p.relation.targetColumn⟩

namespace Join

variable {ctx : Context} {config : Config} {t : Table} {tableAlias : String}
  {request : JoinRequest} {p : Parts}

/-- Between plain names the equality is a comparison. -/
theorem reads_equality (halias : Lexeme.isName tableAlias = true)
    (hself : Lexeme.isName p.relation.selfReference = true)
    (htable : Lexeme.isName p.relation.targetTable = true)
    (hcolumn : Lexeme.isName p.relation.targetColumn = true) :
    Predicate.Reads (p.equality tableAlias)
      (.only (.only (.comparison (p.comparison tableAlias)))) := by
  have hqualified {s s' : String} (hs : Lexeme.isName s = true) (hs' : Lexeme.isName s' = true) :
      Lexeme.ofText (s ++ "." ++ s') = some [.word (s ++ "." ++ s')] := by
    have hdot : Lexeme.isNameChar '.' = true := by decide
    have hname : Lexeme.isName (s ++ "." ++ s') = true := by
      simp only [Lexeme.isName] at hs hs'
      simp [Lexeme.isName, String.toList_append, List.all_append, hs, hs', hdot]
    exact Lexeme.ofText_name hname (by simp)
  have hsign : Lexeme.ofText "=" = some [.sign "="] := by decide
  have htext : p.equality tableAlias = tableAlias ++ "." ++ p.relation.selfReference ++ " " ++
      "=" ++ " " ++ (p.relation.targetTable ++ "." ++ p.relation.targetColumn) := by
    simp [Parts.equality, String.append_assoc]
  rw [Predicate.Reads, htext]
  exact Lexeme.ofText_append (Lexeme.ofText_append (hqualified halias hself) hsign)
    (hqualified htable hcolumn)

/-- What the ON clause of a join says, read with `AND` before `OR`: the equality holds together with
the first alternative of the further predicate, or a later alternative holds. So it is the equality
together with the further predicate just where no later alternative holds without the equality; in
particular where there are no later ones. -/
theorem on_narrows_first (h : request.Leads ctx config t p) {e : Comparison} {q : Predicate}
    (he : Predicate.Reads (p.equality tableAlias) (.only (.only (.comparison e))))
    (hq : q.Reads p.extra) :
    ∃ on joined, expand ctx config t tableAlias request = .ok ⟨p.columns config.separator,
        p.joinType.keyword ++ " " ++ p.relation.targetTable ++ " ON " ++ on⟩ ∧
      (∀ r, Predicate.Reads on r ↔ r = joined) ∧
      ∀ holds, (joined.Holds holds ↔ holds e ∧ q.first.Holds holds ∨
          ∃ o, q.others = some o ∧ o.Holds holds) ∧
        ((joined.Holds holds ↔ holds e ∧ q.Holds holds) ↔
          ∀ o, q.others = some o → o.Holds holds → holds e) ∧
        (q.others = none → (joined.Holds holds ↔ holds e ∧ q.Holds holds)) := by
  have hextra : p.extra ≠ "" := by
    intro hempty
    rw [hempty] at hq
    have hnil : some [] = some q.lexemes := hq
    exact q.lexemes_ne_nil (Option.some.inj hnil).symm
  have hreads := he.narrow hq
  have hholds (holds : Comparison → Prop) : (Factor.comparison e).Holds holds ↔ holds e := by
    rw [Factor.Holds]
  refine ⟨p.equality tableAlias ++ " AND " ++ p.extra, q.narrow (.comparison e), ?_, ?_, ?_⟩
  · rw [expand_of_leads h, ← clause_eq, condition, if_neg hextra]
    rfl
  · exact fun r => ⟨fun hr => hr.unique hreads, fun hr => hr ▸ hreads⟩
  · intro holds
    have hiff := q.holds_narrow_iff holds (.comparison e)
    rw [hholds] at hiff
    refine ⟨?_, hiff, fun hnone => hiff.mpr ?_⟩
    · rw [Predicate.holds_narrow, hholds]
    · intro o ho
      rw [hnone] at ho
      cases ho

/-- Asks for the home of users with a key that is positive or below nine. -/
def eitherRequest : JoinRequest :=
  ⟨.text "home", none, some fun table => .ok (table ++ ".id > 0 OR " ++ table ++ ".id < 9")⟩

def eitherParts : Parts :=
  ⟨⟨.manyToOne, "home", "address_id", "addresses", "id", .direct (.cls (.plain "Address"))⟩,
    addressTable, .left, "addresses.id > 0 OR addresses.id < 9"⟩

/-- The key of the address is compared with a number. -/
def keyFactor (sign number : String) : Factor := .comparison ⟨"addresses.id", sign, number⟩

def eitherPredicate : Predicate :=
  .either (.only (keyFactor ">" "0")) (.only (.only (keyFactor "<" "9")))

theorem leads_either :
    eitherRequest.Leads (userContext "home") .usual (userTable "home") eitherParts :=
  ⟨rfl, ⟨_, rfl, rfl⟩, rfl, rfl⟩

theorem reads_eitherEquality : Predicate.Reads (eitherParts.equality "user")
    (.only (.only (.comparison (eitherParts.comparison "user")))) :=
  reads_equality rfl rfl rfl rfl

theorem reads_eitherPredicate : eitherPredicate.Reads eitherParts.extra := by
  unfold Predicate.Reads
  decide

theorem on_narrows_first_either :
    ∃ on joined, expand (userContext "home") .usual (userTable "home") "user" eitherRequest =
        .ok ⟨["addresses.id AS home_id"], "LEFT JOIN addresses ON " ++ on⟩ ∧
      Predicate.Reads on joined ∧
      ∀ holds, joined.Holds holds ↔ holds (eitherParts.comparison "user") ∧
          holds ⟨"addresses.id", ">", "0"⟩ ∨ holds ⟨"addresses.id", "<", "9"⟩ := by
  obtain ⟨on, joined, hexpand, hreads, hholds⟩ := on_narrows_first leads_either reads_eitherEquality
    reads_eitherPredicate
  refine ⟨on, joined, hexpand, (hreads joined).mpr rfl, fun holds => ?_⟩
  rw [(hholds holds).1]
  simp [eitherPredicate, keyFactor, Predicate.first, Predicate.others, Predicate.Holds,
    Alternative.Holds, Factor.Holds]

/-- A user is joined with an address of another one, if its key is below nine. -/
theorem on_admits_unequal :
    ¬∀ (ctx : Context) (config : Config) (t : Table) (tableAlias : String) (request : JoinRequest)
      (p : Parts) (e : Comparison) (q : Predicate) (on : String) (joined : Predicate)
      (holds : Comparison → Prop), request.Leads ctx config t p →
      Predicate.Reads (p.equality tableAlias) (.only (.only (.comparison e))) →
      q.Reads p.extra → expand ctx config t tableAlias request = .ok ⟨p.columns config.separator,
        p.joinType.keyword ++ " " ++ p.relation.targetTable ++ " ON " ++ on⟩ →
      joined.Reads on → (joined.Holds holds ↔ holds e ∧ q.Holds holds) := by
  intro h
  have hjoined := h (userContext "home") .usual (userTable "home") "user" eitherRequest eitherParts
    _ eitherPredicate (eitherParts.equality "user" ++ " AND " ++ eitherParts.extra)
    (eitherPredicate.narrow (.comparison (eitherParts.comparison "user")))
    (· = ⟨"addresses.id", "<", "9"⟩) leads_either reads_eitherEquality reads_eitherPredicate rfl
    (reads_eitherEquality.narrow reads_eitherPredicate)
  simp [eitherPredicate, keyFactor, eitherParts, Parts.comparison, Predicate.narrow,
    Predicate.Holds, Alternative.Holds, Factor.Holds] at hjoined

end Join

end RecordSql
