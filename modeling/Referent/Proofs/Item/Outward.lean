import Referent.Proofs.Item.Fits
import Referent.Proofs.Pair.Around
import Referent.Proofs.Pair.Growth

namespace Referent.Collection

lemma boundaries_eq (d : Document) :
    boundaries d = ⟨[⟨.curlyBrackets, ['\x7b'], ['\x7d']⟩, ⟨.parentheses, ['('], [')']⟩,
      ⟨.squareBrackets, ['['], [']']⟩], none, true⟩ := by
  have hall (python : Bool) : (Delimiter.table.filter fun e =>
      (Delimiter.names .collectionBoundary).contains e.name && (python || !e.isTripleQuote)) =
        [⟨.curlyBrackets, ['\x7b'], ['\x7d']⟩, ⟨.parentheses, ['('], [')']⟩,
          ⟨.squareBrackets, ['['], [']']⟩] := by
    cases python <;> decide
  rw [boundaries, PairSearch.ofName, PairSearch.strong, Delimiter.ofName, hall,
    List.mergeSort_of_pairwise (by decide)]

variable {cx : Context} {d : Document} {r : Range}

lemma find_of_outer? {p q : PairMatch} (h : outer? cx d p = .ok (some q)) :
    ∃ offset, d.offsetAt p.opening.start = offset + 1 ∧
      (boundaries d).find cx d (.point (d.positionAt offset)) = .ok (some q) := by
  unfold outer? at h
  split at h
  · cases h
  · next offset hoffset => exact ⟨offset, hoffset, h⟩

lemma isUsable_eq_true {p : PairMatch} : isUsable cx d r p = .ok true ↔
    meansInside d r p = true ∧ isInString cx d p = .ok false := by
  unfold isUsable
  split
  · next h => simp [map_eq_ok, h]
  · next h => simp [h]

lemma isUsable_eq_false {p : PairMatch} (h : meansInside d r p = false) :
    isUsable cx d r p = .ok false := by
  rw [isUsable, h, if_neg Bool.false_ne_true]

section Step

variable {fuel : Nat} {p : PairMatch}

lemma pairFrom_usable (h : isUsable cx d r p = .ok true) :
    pairFrom cx d r (fuel + 1) p = .ok (some p) := by
  rw [pairFrom, h]
  rfl

lemma pairFrom_outer {q : PairMatch} (h : isUsable cx d r p = .ok false)
    (houter : outer? cx d p = .ok (some q)) :
    pairFrom cx d r (fuel + 1) p = pairFrom cx d r fuel q := by
  rw [pairFrom, h, houter]
  rfl

lemma pairFrom_outermost (h : isUsable cx d r p = .ok false) (houter : outer? cx d p = .ok none) :
    pairFrom cx d r (fuel + 1) p = .ok none := by
  rw [pairFrom, h, houter]
  rfl

lemma pairFrom_unknown {e : TargetError} (h : isUsable cx d r p = .error e) :
    pairFrom cx d r (fuel + 1) p = .error e := by
  rw [pairFrom, h]
  rfl

lemma pairFrom_failed {e : TargetError} (h : isUsable cx d r p = .ok false)
    (houter : outer? cx d p = .error e) : pairFrom cx d r (fuel + 1) p = .error e := by
  rw [pairFrom, h, houter]
  rfl

end Step

lemma isInString_eq_false (htree : cx.tree? d = none)
    (hscan : ∀ (s : PairSearch) (r : Range), s.NoOverflow cx.config.scan d r) {p : PairMatch}
    (hp : p.Fits d) : isInString cx d p = .ok false := by
  obtain ⟨found, hfind⟩ : ∃ found, (PairSearch.ofName .string d.language).strong.find cx d p.content =
      .ok found := by
    rw [PairSearch.find_of_treeless htree]
    exact PairSearch.exists_findInText_eq_ok (hscan _ _)
  rw [isInString, hfind]
  refine congrArg Except.ok (Bool.eq_false_iff.mpr fun h => ?_)
  obtain ⟨string, rfl, hle⟩ := (Option.any_eq_true _ _).mp h
  have hwritten : PairSearch.IsWritten d p.content string := by
    cases PairSearch.foundBy_of_find hfind with
    | inFragment h _ => exact absurd h (by simp [htree])
    | inTree h _ => exact absurd h (by simp [htree])
    | inText h => exact PairSearch.isWritten_of_findInText rfl h
  have hlt := hwritten.offsetAt_lt
  rw [(PairMatch.content_eq hp.ordered).1] at hlt
  have hmono := Document.offsetAt_mono (d := d) (of_decide_eq_true hle)
  omega

lemma around_of_outer? (htree : cx.tree? d = none)
    (hscan : ∀ (s : PairSearch) (r : Range), s.NoOverflow cx.config.scan d r) {p q : PairMatch}
    (hfind : (boundaries d).find cx d r = .ok (some p)) (hp : meansInside d r p = false)
    (houter : outer? cx d p = .ok (some q)) (hq : meansInside d r q = true) :
    around cx d r = .ok (ofPair q) := by
  have hfits : q.Fits d := fits_outer? (fun t h => by simp [htree] at h) houter
  have husable := isUsable_eq_true.mpr ⟨hq, isInString_eq_false htree hscan hfits⟩
  have hpair : pair? cx d r = .ok (some q) := by
    rw [pair?, hfind]
    exact (pairFrom_outer (isUsable_eq_false hp) houter).trans (pairFrom_usable husable)
  exact around_eq_ok.mpr (.inl ⟨q, hpair, rfl⟩)

/-- Where the search ends that begins with the given pair, after it has passed over some pairs. -/
inductive Ends (cx : Context) (d : Document) (r : Range) :
    Nat → PairMatch → Except TargetError (Option PairMatch) → Prop
  | usable {p : PairMatch} (h : isUsable cx d r p = .ok true) : Ends cx d r 0 p (.ok (some p))
  | outermost {p : PairMatch} (h : isUsable cx d r p = .ok false) (houter : outer? cx d p = .ok none) :
    Ends cx d r 1 p (.ok none)
  | outward {passed : Nat} {p q : PairMatch} {found : Except TargetError (Option PairMatch)}
    (h : isUsable cx d r p = .ok false) (houter : outer? cx d p = .ok (some q))
    (hrest : Ends cx d r passed q found) : Ends cx d r (passed + 1) p found
  | unknown {p : PairMatch} {e : TargetError} (h : isUsable cx d r p = .error e) :
    Ends cx d r 0 p (.error e)
  | failed {p : PairMatch} {e : TargetError} (h : isUsable cx d r p = .ok false)
    (houter : outer? cx d p = .error e) : Ends cx d r 1 p (.error e)

section Ordered

variable (ht : ∀ t, cx.tree? d = some t → t.Ordered)

include ht

lemma offsetAt_lt_of_foundBy {p q : PairMatch} {offset : Nat}
    (hoffset : d.offsetAt p.opening.start = offset + 1)
    (h : (boundaries d).FoundBy cx d (.point (d.positionAt offset)) q) :
    d.offsetAt q.opening.start < d.offsetAt p.opening.start := by
  have haround := h.around rfl ht (Document.holds_point (d.has_positionAt offset))
  have hbefore := Document.offsetAt_mono (d := d) haround.opening
  have hpoint := d.offsetAt_positionAt_le offset
  have hopening := Document.offsetAt_mono (d := d) q.opening.start_le_stop
  have hstart : (Range.point (d.positionAt offset)).start = d.positionAt offset := rfl
  rw [hstart] at hbefore
  omega

lemma offsetAt_lt_of_outer? {p q : PairMatch} (h : outer? cx d p = .ok (some q)) :
    d.offsetAt q.opening.start < d.offsetAt p.opening.start := by
  obtain ⟨offset, hoffset, hfind⟩ := find_of_outer? h
  exact offsetAt_lt_of_foundBy ht hoffset (PairSearch.foundBy_of_find hfind)

lemma ends_pairFrom {fuel : Nat} {p : PairMatch} (h : d.offsetAt p.opening.start < fuel) :
    ∃ passed ≤ d.offsetAt p.opening.start + 1, Ends cx d r passed p (pairFrom cx d r fuel p) := by
  induction fuel generalizing p with
  | zero => exact absurd h (Nat.not_lt_zero _)
  | succ fuel ih =>
    cases husable : isUsable cx d r p with
    | error e => exact ⟨0, Nat.zero_le _, pairFrom_unknown husable ▸ .unknown husable⟩
    | ok isUsable => cases isUsable with
      | true => exact ⟨0, Nat.zero_le _, pairFrom_usable husable ▸ .usable husable⟩
      | false => cases houter : outer? cx d p with
        | error e =>
          exact ⟨1, Nat.le_add_left _ _, pairFrom_failed husable houter ▸ .failed husable houter⟩
        | ok outer => cases outer with
          | none =>
            have hnone : pairFrom cx d r (fuel + 1) p = .ok none := pairFrom_outermost husable houter
            exact ⟨1, Nat.le_add_left _ _, hnone ▸ .outermost husable houter⟩
          | some q =>
            have hlt := offsetAt_lt_of_outer? ht houter
            obtain ⟨passed, hpassed, hends⟩ := ih (p := q) (by omega)
            have hnext : pairFrom cx d r (fuel + 1) p = pairFrom cx d r fuel q :=
              pairFrom_outer husable houter
            exact ⟨passed + 1, by omega, hnext ▸ .outward husable houter hends⟩

/-- However a further pair is found, it opens before the one that is passed over. So the search comes to
an end from every pair, after no more steps than there are characters before it. -/
theorem ends_pair? (r : Range) :
    (∀ (p q : PairMatch) (offset : Nat), d.offsetAt p.opening.start = offset + 1 →
      (boundaries d).FoundBy cx d (.point (d.positionAt offset)) q →
      d.offsetAt q.opening.start < d.offsetAt p.opening.start) ∧
    (∀ p q : PairMatch, outer? cx d p = .ok (some q) →
      d.offsetAt q.opening.start < d.offsetAt p.opening.start) ∧
    match (boundaries d).find cx d r with
    | .error e => pair? cx d r = .error e
    | .ok none => pair? cx d r = .ok none
    | .ok (some p) => ∃ passed ≤ d.offsetAt p.opening.start + 1, Ends cx d r passed p (pair? cx d r) := by
  refine ⟨fun p q offset => offsetAt_lt_of_foundBy ht, fun p q => offsetAt_lt_of_outer? ht, ?_⟩
  unfold pair?
  cases (boundaries d).find cx d r with
  | error e => rfl
  | ok found => cases found with
    | none => rfl
    | some p =>
      have hlength := d.offsetAt_le p.opening.start
      exact ends_pairFrom ht (by omega)

end Ordered

def nestedBrackets : Document := .ofText 1 "plaintext" "(a( b))".toList

def outerPair : PairMatch := ⟨.onLine 0 0 1, .onLine 0 6 7⟩

def nestedPair : PairMatch := ⟨.onLine 0 2 3, .onLine 0 5 6⟩

def nestedTree : SyntaxTree :=
  .ofNode (.node "list" (.onLine 0 0 7) true none
    [.node "(" (.onLine 0 0 1) false none [],
      .node "list" (.onLine 0 2 6) true none
        [.node "(" (.onLine 0 2 3) false none [], .node ")" (.onLine 0 5 6) false none []],
      .node ")" (.onLine 0 6 7) false none []])

theorem ends_pair?_nested :
    let cx : Context := { trees := [(1, nestedTree)] }
    let d := nestedBrackets
    let r : Range := .point ⟨0, 3⟩
    (∀ t, cx.tree? d = some t → t.Ordered) ∧ (boundaries d).find cx d r = .ok (some nestedPair) ∧
      outer? cx d nestedPair = .ok (some outerPair) ∧
      d.offsetAt outerPair.opening.start < d.offsetAt nestedPair.opening.start ∧
      ∃ passed ≤ 3, Ends cx d r passed nestedPair (pair? cx d r) := by
  intro cx d r
  have ht : ∀ t, cx.tree? d = some t → t.Ordered := by
    rintro t ⟨⟩
    decide +kernel
  have hfind : (boundaries d).find cx d r = .ok (some nestedPair) := by
    rw [boundaries_eq]
    decide +kernel
  have houter : outer? cx d nestedPair = .ok (some outerPair) := by
    rw [outer?, boundaries_eq]
    decide +kernel
  obtain ⟨_, hlt, hends⟩ := ends_pair? ht r
  rw [hfind] at hends
  exact ⟨ht, hfind, houter, hlt _ _ houter, hends⟩

section Ordered

variable (ht : ∀ t, cx.tree? d = some t → t.Ordered)

include ht

lemma Ends.cases_found {passed : Nat} {p q : PairMatch} (h : Ends cx d r passed p (.ok (some q))) :
    p = q ∨ q.opening.stop ≤ p.opening.start ∧ q.opening.stop ≤ q.closing.start := by
  generalize hfound : (.ok (some q) : Except TargetError _) = found at h
  induction h with
  | usable h => exact .inl (Option.some.inj (Except.ok.inj hfound)).symm
  | outermost h houter => cases hfound
  | unknown h => cases hfound
  | failed h houter => cases hfound
  | @outward passed p p' found h houter hrest ih =>
    obtain ⟨offset, hoffset, hfind⟩ := find_of_outer? houter
    have haround := (PairSearch.foundBy_of_find hfind).around rfl ht
      (Document.holds_point (d.has_positionAt offset))
    have hplace : d.positionAt offset ≤ p.opening.start := by
      apply Position.le_trans (d.positionAt_mono (Nat.le_succ offset))
      rw [Nat.succ_eq_add_one, ← hoffset]
      exact Document.positionAt_offsetAt_le _
    have hbefore : p'.opening.stop ≤ p.opening.start := Position.le_trans haround.opening hplace
    rcases ih hfound with rfl | ⟨hle, hordered⟩
    · exact .inr ⟨hbefore, haround.ordered⟩
    · exact .inr ⟨Position.le_trans hle (Position.le_trans p'.opening.start_le_stop hbefore), hordered⟩

/-- The pair of a collection is next to what is in it, and begins before the range. It is around the range
unless it closes too early. That is so for the innermost pair and those around it, but not for one that
stands before a pair that is passed over. -/
theorem containsRange_around_iff (hr : d.Holds r) {range opening closing : Range}
    (h : around cx d r = .ok ⟨range, some (opening, closing)⟩) :
    (opening.stop = range.start ∧ closing.start = range.stop) ∧
    (range.containsRange r = true ↔ r.stop ≤ closing.start) ∧
    ∃ p passed, (boundaries d).find cx d r = .ok (some p) ∧ p.Around r ∧
      Ends cx d r passed p (.ok (some ⟨opening, closing⟩)) ∧
      (isUsable cx d r p = .ok true → p = ⟨opening, closing⟩) ∧
      (p.closing.start ≤ closing.start → range.containsRange r = true) ∧
      (closing.start < p.opening.stop → range.containsRange r = false) := by
  have hpair : pair? cx d r = .ok (some ⟨opening, closing⟩) ∧
      range = PairMatch.interior ⟨opening, closing⟩ := by
    rcases around_eq_ok.mp h with ⟨p, hp, heq⟩ | ⟨_, heq⟩
    · cases heq
      exact ⟨hp, rfl⟩
    · cases heq
  obtain ⟨hpair, rfl⟩ := hpair
  obtain ⟨found, hfind, hfrom⟩ := bind_eq_ok.mp hpair
  obtain ⟨p, rfl⟩ : ∃ p, found = some p := by
    cases found with
    | none => cases hfrom
    | some p => exact ⟨p, rfl⟩
  have haround : p.Around r := (PairSearch.foundBy_of_find hfind).around rfl ht hr
  have hfuel : d.offsetAt p.opening.start < d.length + 2 :=
    Nat.lt_of_le_of_lt (d.offsetAt_le _) (by omega)
  obtain ⟨passed, _, hends⟩ := ends_pairFrom (r := r) ht hfuel
  rw [show pairFrom cx d r (d.length + 2) p = _ from hfrom] at hends
  have hbegins : opening.stop ≤ closing.start ∧ opening.stop ≤ r.start := by
    rcases hends.cases_found ht with rfl | ⟨hle, hordered⟩
    · exact ⟨haround.ordered, haround.opening⟩
    · exact ⟨hordered, Position.le_trans hle
        (Position.le_trans p.opening.start_le_stop haround.opening)⟩
  obtain ⟨hstart, hstop⟩ := PairMatch.interior_eq (p := ⟨opening, closing⟩) hbegins.1
  have hcontains : (PairMatch.interior ⟨opening, closing⟩).containsRange r = true ↔
      r.stop ≤ closing.start := by
    rw [Range.containsRange_iff, hstart, hstop]
    exact and_iff_right hbegins.2
  refine ⟨⟨hstart.symm, hstop.symm⟩, hcontains, p, passed, hfind, haround, hends, ?_, ?_, ?_⟩
  · intro husable
    exact Option.some.inj (Except.ok.inj ((pairFrom_usable husable).symm.trans hfrom))
  · exact fun hle => hcontains.mpr (Position.le_trans haround.closing hle)
  · intro hlt
    rw [Bool.eq_false_iff, ne_eq, hcontains, Position.not_le]
    exact Position.lt_of_lt_of_le hlt (Position.le_trans haround.opening r.start_le_stop)

end Ordered

theorem containsRange_around_nested :
    let d := nestedBrackets
    let r : Range := .point ⟨0, 3⟩
    d.Holds r ∧ around {} d r = .ok ⟨.onLine 0 1 6, some (.onLine 0 0 1, .onLine 0 6 7)⟩ ∧
      (Range.onLine 0 1 6).containsRange r = true := by
  intro d r
  have hr : d.Holds r := by decide +kernel
  have hfind : (boundaries d).find {} d r = .ok (some nestedPair) := by
    rw [boundaries_eq]
    decide +kernel
  have houter : outer? {} d nestedPair = .ok (some outerPair) := by
    rw [outer?, boundaries_eq]
    decide +kernel
  have hscan (s : PairSearch) (r : Range) : s.NoOverflow {} d r :=
    PairSearch.noOverflow_of_lt (by decide) (by decide)
  have haround : around {} d r = .ok ⟨.onLine 0 1 6, some (.onLine 0 0 1, .onLine 0 6 7)⟩ :=
    around_of_outer? rfl hscan hfind (by decide +kernel) houter (by decide +kernel)
  have hcontains := (containsRange_around_iff (fun t h => by cases h) hr haround).2.1.mpr (by decide)
  exact ⟨hr, haround, hcontains⟩

lemma meansInside_of_before {q : PairMatch} (h : q.opening.stop ≤ q.closing.start)
    (hbefore : q.closing.stop < r.start) : meansInside d r q = true := by
  have hne {p : Position} (hp : p ≤ q.closing.stop) : r.start ≠ p := by
    rintro rfl
    exact Position.not_lt.mpr hp hbefore
  have hclosing : q.closing.start ≤ q.closing.stop := q.closing.start_le_stop
  have hopening : q.opening.stop ≤ q.closing.stop := Position.le_trans h hclosing
  have hstart : q.opening.start ≤ q.closing.stop :=
    Position.le_trans q.opening.start_le_stop hopening
  have hcontent : r ≠ q.content := fun heq => by
    rw [heq, (PairMatch.content_eq h).1] at hne
    exact hne hstart rfl
  rw [meansInside]
  split
  · simp [hne hstart, hne hopening, hne hclosing, hne (Position.le_refl _)]
  · simp only [ne_eq, hcontent, not_false_eq_true, true_and, decide_eq_true_eq]
    exact ⟨fun heq => hne hstart (heq ▸ rfl), fun heq => hne hclosing (heq ▸ rfl)⟩

theorem around_of_before (htree : cx.tree? d = none)
    (hscan : ∀ (s : PairSearch) (r : Range), s.NoOverflow cx.config.scan d r) {p q : PairMatch}
    (hfind : (boundaries d).find cx d r = .ok (some p)) (hp : meansInside d r p = false)
    (houter : outer? cx d p = .ok (some q)) (hbefore : q.closing.stop < r.start) :
    around cx d r = .ok (ofPair q) ∧ q.interior.containsRange r = false := by
  have hordered : q.opening.stop ≤ q.closing.start :=
    (fits_outer? (fun t h => by simp [htree] at h) houter).ordered
  refine ⟨around_of_outer? htree hscan hfind hp houter (meansInside_of_before hordered hbefore), ?_⟩
  rw [Bool.eq_false_iff, ne_eq, Range.containsRange_iff, (PairMatch.interior_eq hordered).2]
  rintro ⟨_, hle⟩
  have hstop := Position.le_trans (Position.le_trans r.start_le_stop hle) q.closing.start_le_stop
  exact Position.not_lt.mpr hstop hbefore

theorem not_containsRange_around_sibling :
    let d : Document := .ofText 1 "plaintext" "[(a)( b)]".toList
    let r : Range := .point ⟨0, 5⟩
    d.Holds r ∧ around {} d r = .ok ⟨.onLine 0 2 3, some (.onLine 0 1 2, .onLine 0 3 4)⟩ ∧
      (Range.onLine 0 2 3).containsRange r = false := by
  intro d r
  have hfind : (boundaries d).find {} d r = .ok (some ⟨.onLine 0 4 5, .onLine 0 7 8⟩) := by
    rw [boundaries_eq]
    decide +kernel
  have houter : outer? {} d ⟨.onLine 0 4 5, .onLine 0 7 8⟩ =
      .ok (some ⟨.onLine 0 1 2, .onLine 0 3 4⟩) := by
    rw [outer?, boundaries_eq]
    decide +kernel
  have hscan (s : PairSearch) (r : Range) : s.NoOverflow {} d r :=
    PairSearch.noOverflow_of_lt (by decide) (by decide)
  exact ⟨by decide +kernel,
    around_of_before rfl hscan hfind (by decide +kernel) houter (by decide)⟩

end Referent.Collection
