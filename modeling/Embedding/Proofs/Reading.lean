import Embedding.Json.Reader
import Embedding.Proofs.Grammar

namespace Embedding.Json.Reader

variable {α β : Type} {x y z : Reader α} {f : α → Reader β} {s t u : List Char} {a : α} {b : β}
  {post : α → List Char → Prop}

def Becomes (x : Reader α) (s : List Char) (y : Reader α) (t : List Char) : Prop :=
  ∀ done, ∃ done', ExceptT.run x ⟨done, s⟩ = ExceptT.run y ⟨done', t⟩

def Takes (x : Reader α) (s : List Char) (a : α) (t : List Char) : Prop := Becomes x s (pure a) t

/-- Whatever the reader answers on the text `s` satisfies `post`, together with what is left of the text. -/
def Allows (x : Reader α) (s : List Char) (post : α → List Char → Prop) : Prop :=
  ∀ done a c, ExceptT.run x ⟨done, s⟩ = (.ok a, c) → post a c.rest

def Rejects (x : Reader α) (s : List Char) : Prop := Allows x s fun _ _ => False

theorem run_bind (x : Reader α) (f : α → Reader β) (c : Cursor) :
    ExceptT.run (x >>= f) c = match ExceptT.run x c with
      | (.ok a, c') => ExceptT.run (f a) c'
      | (.error failure, c') => (.error failure, c') := by
  show ExceptT.bindCont f (ExceptT.run x c).1 (ExceptT.run x c).2 = _
  rcases ExceptT.run x c with ⟨failure | a, c'⟩ <;> rfl

theorem run_tryCatch (x : Reader α) (handle : Failure → Reader α) (c : Cursor) :
    ExceptT.run (tryCatch x handle) c = match ExceptT.run x c with
      | (.ok a, c') => (.ok a, c')
      | (.error failure, c') => ExceptT.run (handle failure) c' := by
  have hbind (k : Except Failure α → StateM Cursor (Except Failure α)) :
      (ExceptT.run x >>= k) c = k (ExceptT.run x c).1 (ExceptT.run x c).2 := rfl
  change ExceptT.run (ExceptT.tryCatch x handle) c = _
  rw [ExceptT.tryCatch]
  refine (hbind _).trans ?_
  rcases ExceptT.run x c with ⟨failure | a, c'⟩ <;> rfl

theorem Becomes.refl : Becomes x s x s := fun done => ⟨done, rfl⟩

theorem Becomes.trans (h : Becomes x s y t) (h' : Becomes y t z u) : Becomes x s z u := fun done =>
  let ⟨done', h⟩ := h done
  let ⟨done'', h'⟩ := h' done'
  ⟨done'', h.trans h'⟩

theorem Becomes.bind (h : Becomes x s y t) : Becomes (x >>= f) s (y >>= f) t := fun done =>
  let ⟨done', h⟩ := h done
  ⟨done', by rw [run_bind, run_bind, h]⟩

theorem Becomes.allows (h : Becomes x s y t) (hy : Allows y t post) : Allows x s post := fun done a c hrun =>
  let ⟨done', h⟩ := h done
  hy done' a c (h ▸ hrun)

theorem Takes.pure : Takes (pure a) s a s := Becomes.refl

theorem Takes.bind {y : Reader β} (hx : Takes x s a t) (hf : Becomes (f a) t y u) : Becomes (x >>= f) s y u := by
  refine (Becomes.bind hx).trans ?_
  rw [pure_bind]
  exact hf

theorem Takes.discard (hx : Takes x s a t) : Takes (discard x) s () t := by
  have h : Functor.discard x = x >>= fun _ => Pure.pure () := by
    simp only [Functor.discard, LawfulFunctor.map_const, Function.comp, Function.const, ← bind_pure_comp]
  rw [h]
  exact hx.bind Takes.pure

theorem becomes_get {f : Cursor → Reader α} (hf : ∀ done, Becomes (f ⟨done, s⟩) s y t) : Becomes (get >>= f) s y t :=
  fun done => hf done done

theorem allows_get {f : Cursor → Reader α} (hf : ∀ done, Allows (f ⟨done, s⟩) s post) : Allows (get >>= f) s post :=
  fun done => hf done done

theorem Takes.allows (hx : Takes x s a t) (h : post a t) : Allows x s post :=
  Becomes.allows hx fun _ _ _ hrun => by cases hrun; exact h

theorem Allows.bind {post : β → List Char → Prop} {mid : α → List Char → Prop} (hx : Allows x s mid)
    (hf : ∀ a t, mid a t → Allows (f a) t post) : Allows (x >>= f) s post := by
  intro done b c h
  rw [run_bind] at h
  rcases hrun : ExceptT.run x ⟨done, s⟩ with ⟨failure | a, c'⟩
  · rw [hrun] at h; cases h
  · rw [hrun] at h
    exact hf a c'.rest (hx done a c' hrun) c'.done b c h

theorem Takes.bind_allows {post : β → List Char → Prop} (hx : Takes x s a t) (hf : Allows (f a) t post) :
    Allows (x >>= f) s post :=
  (hx.bind Becomes.refl).allows hf

theorem Allows.mono {post' : α → List Char → Prop} (hx : Allows x s post) (h : ∀ a t, post a t → post' a t) :
    Allows x s post' :=
  fun done a c hrun => h a c.rest (hx done a c hrun)

theorem allows_any (x : Reader α) (s : List Char) : Allows x s fun _ _ => True := fun _ _ _ _ => trivial

theorem rejects_throw (failure : Failure) : Rejects (throw failure : Reader α) s := fun _ _ _ h => by cases h

theorem rejects_failHere (fault : Fault) : Rejects (failHere fault : Reader α) s :=
  fun done => rejects_throw ⟨fault, some (Cursor.mk done s).place⟩ done

theorem rejects_failNext (fault : Fault) : Rejects (failNext fault : Reader α) s :=
  fun done => rejects_throw ⟨fault, some (Cursor.mk done s).nextPlace⟩ done

theorem rejects_failLater (fault : Fault) : Rejects (failLater fault : Reader α) s := rejects_throw _

theorem Rejects.allows (hx : Rejects x s) : Allows x s post := hx.mono fun _ _ h => h.elim

theorem Rejects.bind (hx : Rejects x s) : Rejects (x >>= f) s := Allows.bind hx fun _ _ h => h.elim

theorem rejects_bind (hf : ∀ a t, Rejects (f a) t) : Rejects (x >>= f) s :=
  Allows.bind (allows_any x s) fun a t _ => hf a t

theorem Takes.placed (hx : Takes x s a t) : Takes (placed x) s a t := fun done => by
  obtain ⟨done', hx⟩ := hx done
  exact ⟨done', by rw [Reader.placed, run_tryCatch, hx]; rfl⟩

theorem Allows.placed (hx : Allows x s post) : Allows (placed x) s post := fun done a c hrun => by
  rw [Reader.placed, run_tryCatch] at hrun
  rcases h : ExceptT.run x ⟨done, s⟩ with ⟨failure | a', c'⟩
  · rw [h] at hrun
    dsimp only at hrun
    split at hrun
    · cases hrun
    · exact (rejects_failHere (s := c'.rest) failure.fault c'.done a c hrun).elim
  · rw [h] at hrun
    cases hrun
    exact hx done a c h

theorem Takes.enclosed {close : Reader Unit} (hx : Takes x s a t) (hclose : Takes close t () u) :
    Takes (enclosed x close) s a u := by
  have hbody : Takes (tryCatch (Except.ok <$> x) (Pure.pure ∘ Except.error)) s (.ok a : Except Failure α) t := by
    intro done
    obtain ⟨done', hx⟩ := hx done
    refine ⟨done', ?_⟩
    rw [run_tryCatch, ← bind_pure_comp, run_bind, hx]
    rfl
  exact hbody.bind (hclose.bind Takes.pure)

theorem Rejects.enclosed {close : Reader Unit} (hx : Rejects x s) : Rejects (enclosed x close) s := by
  have hbody : Allows (tryCatch (Except.ok <$> x) (Pure.pure ∘ Except.error)) s
      fun r _ => ∃ failure : Failure, r = .error failure := by
    intro done r c hrun
    rw [run_tryCatch, ← bind_pure_comp, run_bind] at hrun
    rcases h : ExceptT.run x ⟨done, s⟩ with ⟨failure | a, c'⟩
    · rw [h] at hrun
      cases hrun
      exact ⟨failure, rfl⟩
    · exact (hx done a c' h).elim
  refine hbody.bind fun r t hr => ?_
  obtain ⟨failure, rfl⟩ := hr
  exact rejects_bind fun _ _ => rejects_throw failure

theorem takes_peek? : Takes peek? s s.head? s := becomes_get fun _ => Takes.pure

theorem takes_peek : Takes peek s (s.head?.getD (Char.ofNat 0)) s := becomes_get fun _ => Takes.pure

theorem takes_peek_cons {c : Char} : Takes peek (c :: s) c (c :: s) := takes_peek

theorem takes_advance {c : Char} : Takes advance (c :: s) () s := fun done => ⟨c :: done, rfl⟩

theorem takes_next? {c : Char} : Takes next? (c :: s) (some c) s := takes_peek?.bind (takes_advance.bind Takes.pure)

theorem isJsonBlank_of_mem : ∀ c ∈ [' ', '\n', '\r', '\t'], isJsonBlank c.toNat = true := by
  simp [isJsonBlank]

theorem skipBlanks_go (h : Blanks s t) (ht : ∀ c ∈ t.head?, isJsonBlank c.toNat = false) (done : List Char) :
    ∃ done', Cursor.skipBlanks.go done s = ⟨done', t⟩ := by
  induction h generalizing done with
  | @done t =>
    cases t with
    | nil => exact ⟨done, rfl⟩
    | cons c t => exact ⟨done, by rw [Cursor.skipBlanks.go, ht c rfl]; rfl⟩
  | blank hc _ ih =>
    rw [Cursor.skipBlanks.go, if_pos (isJsonBlank_of_mem _ hc)]
    exact ih ht _

theorem takes_peekToken? (h : Blanks s t) (ht : ∀ c ∈ t.head?, isJsonBlank c.toNat = false) :
    Takes peekToken? s t.head? t := by
  have hskip : Takes (modify Cursor.skipBlanks) s () t := fun done => by
    obtain ⟨done', h⟩ := skipBlanks_go h ht done
    exact ⟨done', congrArg (Except.ok (), ·) h⟩
  exact hskip.bind takes_peek?

theorem takes_token {c : Char} (h : Blanks s (c :: t)) (hc : isJsonBlank c.toNat = false) :
    Takes peekToken? s (some c) (c :: t) :=
  takes_peekToken? h fun _ hd => Option.some.inj hd ▸ hc

theorem takes_end (h : Blanks s []) : Takes peekToken? s none [] := takes_peekToken? h fun _ hc => nomatch hc

theorem Takes.answer {text : String} (hx : Takes x text.toList a t) :
    (ExceptT.run x (Cursor.ofString text)).1 = .ok a := by
  obtain ⟨done, h⟩ := hx []
  exact congrArg Prod.fst h

theorem Rejects.answer {text : String} (hx : Rejects x text.toList) :
    ∃ failure, (ExceptT.run x (Cursor.ofString text)).1 = .error failure := by
  rcases h : ExceptT.run x (Cursor.ofString text) with ⟨failure | a, c⟩
  · exact ⟨failure, rfl⟩
  · exact (hx [] a c h).elim

theorem Takes.run {text : String} (hx : Takes x text.toList a t) (ht : Blanks t []) : run x text = .ok a :=
  Takes.answer (hx.bind ((takes_end ht).bind Takes.pure))

theorem Rejects.run {text : String} (hx : Rejects x text.toList) : ∃ failure, run x text = .error failure :=
  Rejects.answer hx.bind

theorem takes_colon (h : Blanks s (':' :: t)) : Takes colon s () t :=
  (takes_token h rfl).bind takes_advance

theorem takes_word : ∀ cs : List Char, Takes (word cs) (cs ++ t) () t
  | [] => Takes.pure
  | c :: cs => takes_next?.bind (by dsimp only; rw [if_pos rfl]; exact takes_word cs)

theorem isDigit_eq (c : Char) : isDigit c = c.isDigit := rfl

def NoDigit (s : List Char) : Prop := ∀ c ∈ s.head?, c.isDigit = false

theorem takes_digits {cs : List Char} (hcs : ∀ c ∈ cs, c.isDigit = true) (ht : NoDigit t) :
    Takes digits (cs ++ t) cs t := by
  have htake : (cs ++ t).takeWhile isDigit = cs := by
    rw [List.takeWhile_append_of_pos (p := isDigit) hcs]
    cases t with
    | nil => exact List.append_nil cs
    | cons c t => rw [List.takeWhile_cons_of_neg (by rw [isDigit_eq, ht c rfl]; decide), List.append_nil]
  have hdrop : (cs ++ t).dropWhile isDigit = t := by
    rw [List.dropWhile_append_of_pos (p := isDigit) hcs]
    cases t with
    | nil => rfl
    | cons c t => exact List.dropWhile_cons_of_neg (by rw [isDigit_eq, ht c rfl]; decide)
  have hrun (done : List Char) : ExceptT.run digits ⟨done, cs ++ t⟩ = (.ok ((cs ++ t).takeWhile isDigit),
      ⟨((cs ++ t).takeWhile isDigit).reverse ++ done, (cs ++ t).dropWhile isDigit⟩) := rfl
  intro done
  refine ⟨cs.reverse ++ done, ?_⟩
  rw [hrun, htake, hdrop]
  rfl

theorem hexValue?_of_mem : ∀ p ∈ hexDigits, hexValue? p.1 = some p.2 := by decide

theorem takes_hexEscape {n : Nat} (h : FourHex s n t) : Takes hexEscape s n t := by
  obtain ⟨ha, hb, hc, hd⟩ := h
  refine becomes_get fun done => ?_
  dsimp only
  rw [hexValue?_of_mem _ ha, hexValue?_of_mem _ hb, hexValue?_of_mem _ hc, hexValue?_of_mem _ hd]
  exact fun done => ⟨_, rfl⟩

theorem takes_unicodeEscape {n : Nat} (h : FourHex s n t) (hn : n < 0xD800 ∨ 0xDFFF < n) :
    Takes unicodeEscape s (Char.ofNat n) t := by
  refine (takes_hexEscape h).bind ?_
  rw [if_neg (by simp; omega), if_pos (by simp; omega)]
  exact Takes.pure

theorem takes_unicodeEscape_pair {n m : Nat} (hn : FourHex s n ('\\' :: 'u' :: t)) (hhigh : 0xD800 ≤ n ∧ n ≤ 0xDBFF)
    (hm : FourHex t m u) (hlow : 0xDC00 ≤ m ∧ m ≤ 0xDFFF) :
    Takes unicodeEscape s (Char.ofNat ((n - 0xD800) * 0x400 + (m - 0xDC00) + 0x10000)) u := by
  refine (takes_hexEscape hn).bind ?_
  rw [if_neg (by simp; omega), if_neg (by simp; omega)]
  refine takes_next?.bind (takes_next?.bind ((takes_hexEscape hm).bind ?_))
  rw [if_neg (by simp; omega)]
  exact Takes.pure

theorem simpleEscape?_of_mem : ∀ p ∈ escapes, simpleEscape? p.1 = some p.2 ∧ p.1 ≠ 'u' := by decide

section StringChars

variable {n : Nat} {done : List Char}

theorem stringChars_plain {c : Char} (hc : StandsForItself c) :
    Becomes (stringChars (n + 1) done) (c :: s) (stringChars n (c :: done)) s := by
  refine takes_peek?.bind ?_
  simp only [List.head?_cons]
  split
  · contradiction
  · next heq => exact absurd (Option.some.inj heq) hc.notQuote
  · next heq => exact absurd (Option.some.inj heq) hc.notBackslash
  · next heq =>
    cases heq
    refine takes_advance.bind ?_
    rw [if_neg (Nat.not_lt.mpr hc.notControl)]
    exact Becomes.refl

theorem stringChars_escape {e c : Char} (he : (e, c) ∈ escapes) :
    Becomes (stringChars (n + 1) done) ('\\' :: e :: s) (stringChars n (c :: done)) s := by
  obtain ⟨hsimple, hu⟩ := simpleEscape?_of_mem _ he
  refine takes_peek?.bind (takes_advance.bind (takes_next?.bind ?_))
  split
  · contradiction
  · next heq => exact absurd (Option.some.inj heq) hu
  · next heq =>
    cases heq
    rw [hsimple]
    exact Becomes.refl

theorem stringChars_unicode :
    Becomes (stringChars (n + 1) done) ('\\' :: 'u' :: s) (unicodeEscape >>= fun c => stringChars n (c :: done)) s :=
  takes_peek?.bind (takes_advance.bind (takes_next?.bind Becomes.refl))

theorem takes_stringChars {cs : List Char} (h : Spells s cs t) (hn : s.length ≤ n) :
    Takes (stringChars n done) s (done.reverse ++ cs) t := by
  induction n generalizing s cs done with
  | zero =>
    obtain rfl := List.length_eq_zero_iff.mp (Nat.le_zero.mp hn)
    cases h
  | succ n ih =>
    have step {c : Char} {s cs : List Char} (h : Spells s cs t) (hs : s.length ≤ n) :
        Takes (stringChars n (c :: done)) s (done.reverse ++ c :: cs) t := by
      have h : Takes (stringChars n (c :: done)) s ((c :: done).reverse ++ cs) t := ih h hs
      rwa [List.reverse_cons, List.append_assoc] at h
    cases h with
    | close => exact takes_peek?.bind (takes_advance.bind (by rw [List.append_nil]; exact Takes.pure))
    | plain hc h => exact (stringChars_plain hc).trans (step h (Nat.le_of_succ_le_succ hn))
    | escape he h =>
      exact (stringChars_escape he).trans (step h (Nat.le_of_succ_le (Nat.le_of_succ_le_succ hn)))
    | unicode hhex hplain h =>
      have := hhex.length_eq
      refine stringChars_unicode.trans ((takes_unicodeEscape hhex hplain).bind (step h ?_))
      simp only [List.length_cons] at hn
      omega
    | pair hhex hhigh hhex' hlow h =>
      have := hhex.length_eq
      have := hhex'.length_eq
      refine stringChars_unicode.trans ((takes_unicodeEscape_pair hhex hhigh hhex' hlow).bind (step h ?_))
      simp only [List.length_cons] at *
      omega

theorem allows_unicodeEscape {n : Nat} (hhex : FourHex s n t) (h : StringRest t u) :
    Allows unicodeEscape s fun _ v => StringRest v u := by
  refine (takes_hexEscape hhex).bind_allows ?_
  split
  · exact (rejects_failHere _).allows
  split
  · exact Takes.pure.allows h
  cases h with
  | close => exact takes_next?.bind_allows (rejects_failHere _).allows
  | plain hc h =>
    refine takes_next?.bind_allows ?_
    split
    · contradiction
    · next heq => exact absurd (Option.some.inj heq) hc.notBackslash
    · exact (rejects_failHere _).allows
  | escape he h =>
    refine takes_next?.bind_allows (takes_next?.bind_allows ?_)
    split
    · contradiction
    · next heq => exact absurd (Option.some.inj heq) (simpleEscape?_of_mem _ he).2
    · exact (rejects_failHere _).allows
  | unicode hhex' h =>
    refine takes_next?.bind_allows (takes_next?.bind_allows ((takes_hexEscape hhex').bind_allows ?_))
    split
    · exact (rejects_failHere _).allows
    · exact Takes.pure.allows h

theorem allows_stringChars (h : StringRest s t) : Allows (stringChars n done) s fun _ u => u = t := by
  induction n generalizing s done with
  | zero => exact (rejects_failHere _).allows
  | succ n ih =>
    cases h with
    | close => exact takes_peek?.bind_allows (takes_advance.bind_allows (Takes.pure.allows rfl))
    | plain hc h => exact (stringChars_plain hc).allows (ih h)
    | escape he h => exact (stringChars_escape he).allows (ih h)
    | unicode hhex h => exact stringChars_unicode.allows ((allows_unicodeEscape hhex h).bind fun _ _ hrest => ih hrest)

end StringChars

theorem takes_stringBody {name : String} (h : Spells s name.toList t) : Takes stringBody s name t := by
  refine becomes_get fun _ => (takes_stringChars h (Nat.le_succ _)).bind ?_
  rw [List.reverse_nil, List.nil_append, String.ofList_toList]
  exact Takes.pure

theorem allows_stringBody (h : StringRest s t) : Allows stringBody s fun _ u => u = t :=
  allows_get fun _ => (allows_stringChars h).bind fun _ _ hu => Takes.pure.allows hu

theorem takes_skipStringChars {n : Nat} (h : StringRest s t) (hn : s.length ≤ n) :
    Takes (skipStringChars n) s () t := by
  induction n generalizing s with
  | zero => have := h.length_lt; omega
  | succ n ih =>
    refine takes_peek?.bind ?_
    cases h with
    | close => exact takes_advance
    | plain hc h =>
      simp only [List.head?_cons]
      split
      · contradiction
      · next heq => exact absurd (Option.some.inj heq) hc.notQuote
      · next heq => exact absurd (Option.some.inj heq) hc.notBackslash
      · next heq =>
        cases heq
        rw [if_neg (Nat.not_lt.mpr hc.notControl)]
        exact takes_advance.bind (ih h (Nat.le_of_succ_le_succ hn))
    | escape he h =>
      obtain ⟨hsimple, hu⟩ := simpleEscape?_of_mem _ he
      refine takes_advance.bind (takes_next?.bind ?_)
      split
      · contradiction
      · next heq => exact absurd (Option.some.inj heq) hu
      · next heq =>
        cases heq
        rw [hsimple]
        exact ih h (by simp only [List.length_cons] at hn; omega)
    | unicode hhex h =>
      have := hhex.length_eq
      refine takes_advance.bind (takes_next?.bind ((takes_hexEscape hhex).discard.bind ?_))
      exact ih h (by simp only [List.length_cons] at hn; omega)

theorem takes_skipString (h : StringRest s t) : Takes skipString s () t :=
  becomes_get fun _ => takes_skipStringChars h (Nat.le_succ _)

end Embedding.Json.Reader
