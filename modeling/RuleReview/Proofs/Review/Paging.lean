import RuleReview.Proofs.Review.Posting
import RuleReview.Proofs.Text

/-! Listings that are complete. Where every page that is asked for is had in the end, the pages are
asked for one after the other up to the first one that is not full, with a pause after each
failure, and the keys of all comments are found. -/

namespace RuleReview.Review.PullRequest

open Http

/-! ### Pages -/

variable {σ : Type}

/-- A server gives the pages of comments from a numbered one on, one after the other. Each comes
with the shares of the pauses before it is had, which is at the last attempt or before. -/
inductive Lists (c : Client σ) (p : PullRequest) (url : String) (ds : List Data) :
    Nat → σ → List (List Rat) → σ → Prop
  | done {page : Nat} {s : σ} : Lists c p url ds page s [] s
  | next {page : Nat} {s s₁ s' : σ} {shares : List Rat} {rest : List (List Rat)}
    (hpage : Gives c (p.pageRequest url page) (.list (pageOf ds page)) s shares s₁)
    (hattempts : shares.length < maxGets) (hrest : Lists c p url ds (page + 1) s₁ rest s') :
    Lists c p url ds page s (shares :: rest) s'

/-- What is done until the pages from a numbered one on are had. -/
def eventsOfPages (p : PullRequest) (url : String) (page : Nat) : List (List Rat) → List Event
  | [] => []
  | shares :: rest =>
    eventsFrom (p.pageRequest url page) 0 shares ++ eventsOfPages p url (page + 1) rest

/-- The number of pages that are asked for: the full ones and one that is not, up to the most. -/
def pagesAsked (ds : List Data) : Nat := min maxPages (ds.length / pageSize + 1)

theorem length_pageOf (ds : List Data) (m : Nat) :
    (pageOf ds (m + 1)).length = min pageSize (ds.length - m * pageSize) := by
  rw [pageOf, List.length_take, List.length_drop, Nat.add_sub_cancel]

/-- The pages before the last one that is asked for are full; the last one is not, unless it is the
last one that may be asked for. -/
theorem pagesAsked_stops (ds : List Data) :
    (∀ page, 0 < page → page < pagesAsked ds → (pageOf ds page).length = pageSize) ∧
      (pagesAsked ds = maxPages ∨ (pageOf ds (pagesAsked ds)).length < pageSize) := by
  have hasked : pagesAsked ds = min 10 (ds.length / 100 + 1) := rfl
  constructor
  · intro page hpos hless
    obtain ⟨m, rfl⟩ := Nat.exists_eq_succ_of_ne_zero hpos.ne'
    rw [length_pageOf]
    simp only [pageSize]
    omega
  · by_cases hmost : 9 < ds.length / 100 + 1
    · exact .inl (hasked.trans (Nat.min_eq_left hmost))
    · have hlast : pagesAsked ds = ds.length / 100 + 1 :=
        hasked.trans (Nat.min_eq_right (by omega))
      rw [hlast, length_pageOf]
      simp only [pageSize]
      omega

theorem addKeys_append (keys more others : List String) :
    addKeys keys (more ++ others) = addKeys (addKeys keys more) others := List.foldl_append

theorem nodup_addKeys {keys : List String} (h : keys.Nodup) (more : List String) :
    (addKeys keys more).Nodup := by
  induction more generalizing keys with
  | nil => exact h
  | cons key more ih =>
    rw [addKeys, List.foldl_cons, ← addKeys]
    split
    next => exact ih h
    next hnew => exact ih (by simpa [List.nodup_append] using ⟨h, fun k hk he => hnew (he ▸ hk)⟩)

variable {c : Client σ} {p : PullRequest} {url : String} {ds : List Data}

/-- A listing of pages that are had finds the keys on them. -/
theorem keysFrom_of_lists (hread : ∀ page, Address.read (p.pageRequest url page).url =
      .ok (p.pageRequest url page).url) {m left : Nat} {s s' : σ} {misses : List (List Rat)}
    (h : Lists c p url ds (m + 1) s misses s')
    (hpages : misses.length = min left ((ds.length - m * pageSize) / pageSize + 1))
    (keys : List String) (events : List Event) (j : Journal) :
    keysFrom c p url keys (m + 1) left (⟨s, events⟩, j) =
      (.ok (addKeys keys (((ds.drop (m * pageSize)).take (left * pageSize)).filterMap itemKey?)),
        (⟨s', events ++ eventsOfPages p url (m + 1) misses⟩, j)) := by
  induction left generalizing m s misses keys events with
  | zero =>
    rw [Nat.zero_min, List.length_eq_zero_iff] at hpages
    subst hpages
    cases h
    rw [Nat.zero_mul, List.take_zero, eventsOfPages, List.append_nil]
    rfl
  | succ left ih =>
    cases h with
    | done => exact absurd hpages.symm (Nat.ne_of_gt (Nat.lt_min.2 ⟨left.succ_pos, Nat.succ_pos _⟩))
    | @next _ _ s₁ _ shares rest hpage hattempts hrest =>
      have hget : getFrom c (p.pageRequest url (m + 1)) 0 maxGets (⟨s, events⟩, j) = _ :=
        getFrom_of_gives hpage hattempts events j
      have hcount : rest.length = min left ((ds.length - m * pageSize) / pageSize) := by
        rw [List.length_cons] at hpages
        omega
      have hlength := length_pageOf ds m
      rw [keysFrom, Stop.bind_apply, attempt_get hread, hget, take_pages, List.filterMap_append,
        addKeys_append, eventsOfPages, ← List.append_assoc]
      dsimp only [Data.items?, Option.getD_some]
      split
      next hshort =>
        have hnone : (ds.length - m * pageSize) / pageSize = 0 := Nat.div_eq_of_lt (by omega)
        rw [hnone, Nat.min_zero, List.length_eq_zero_iff] at hcount
        subst hcount
        cases hrest
        rw [drop_of_short hshort, List.take_nil, eventsOfPages, List.append_nil]
        rfl
      next hfull =>
        have hmore : (ds.length - m * pageSize) / pageSize =
            (ds.length - (m + 1) * pageSize) / pageSize + 1 := by
          rw [Nat.succ_mul, ← Nat.sub_sub]
          exact Nat.div_eq_sub_div (by decide) (by omega)
        exact ih hrest (hcount.trans (by rw [hmore])) _ _

/-- A failure that is not one for now ends a listing. -/
theorem keysFrom_of_stops (hread : ∀ page, Address.read (p.pageRequest url page).url =
      .ok (p.pageRequest url page).url) {page left : Nat} {s : σ} {f : Fault}
    (hreply : (c.respond (p.pageRequest url page) s).1.outcome.bind readBody = .error f)
    (hpass : mayPass f = false) (hends : endsListing f = false) (keys : List String)
    (events : List Event) (j : Journal) :
    keysFrom c p url keys page (left + 1) (⟨s, events⟩, j) = (.error f,
      (⟨(c.respond (p.pageRequest url page) s).2, events ++ [.request (p.pageRequest url page)]⟩,
        j)) := by
  have hget : getFrom c (p.pageRequest url page) 0 maxGets (⟨s, events⟩, j) = (.error f,
      (⟨(c.respond (p.pageRequest url page) s).2, events ++ [.request (p.pageRequest url page)]⟩,
        j)) := by
    rw [show maxGets = 3 + 1 from rfl, getFrom, Stop.bind_apply, send_apply]
    simp only [hreply, hpass]
    rfl
  rw [keysFrom, Stop.bind_apply, attempt_get hread, hget]
  simp only [hends]
  rfl

/-- A body that cannot be read as a value, and is not malformed, ends a listing. -/
theorem keysAt_of_readError (c : Client σ) (p : PullRequest) (path : String) {status : Nat}
    {body : ByteArray} {text : String} {e : Json.ReadError} (hstatus : isSuccess status = true)
    (hbody : Text.Utf8.decode? body = some text) (hread : Json.read text = .error e)
    (hstops : e ≠ .malformed) {s s' : σ}
    (hreply : c.respond (p.pageRequest (server ++ path) 1) s = (.answer status body, s'))
    (events : List Event) (j : Journal) :
    p.keysAt c (server ++ path) (⟨s, events⟩, j) = (.error (.ofJson e),
      (⟨s', events ++ [.request (p.pageRequest (server ++ path) 1)]⟩, j)) := by
  have hcause : (c.respond (p.pageRequest (server ++ path) 1) s).1.outcome.bind readBody =
      .error (.ofJson e) := by
    rw [hreply, outcome_answer_bind hstatus, readBody, hbody]
    simp only [hread]
    rfl
  obtain ⟨hpass, hends⟩ : mayPass (.ofJson e) = false ∧ endsListing (.ofJson e) = false := by
    cases e with
    | malformed => exact absurd rfl hstops
    | _ => exact ⟨rfl, rfl⟩
  refine (keysFrom_of_stops (read_pageRequest p path) hcause hpass hends [] events j).trans ?_
  rw [hreply]

theorem itemKey?_eq_some_iff {d : Data} {key : String} : itemKey? d = some key ↔
    ∃ body, d.get? "body" = some (.text body) ∧ Marker.key? body = some key := by
  rw [itemKey?]
  cases d.get? "body" with
  | none => simp
  | some value => cases value <;> simp [Data.text?]

theorem attempts_of_lists {page : Nat} {s s' : σ} {misses : List (List Rat)}
    (h : Lists c p url ds page s misses s') : ∀ shares ∈ misses,
      shares.length < maxGets ∧ ∀ share ∈ shares, 0 ≤ share ∧ share ≤ 1 := by
  induction h with
  | done => nofun
  | next hpage hattempts hrest ih =>
    exact List.forall_mem_cons.2 ⟨⟨hattempts, share_between_of_gives hpage⟩, ih⟩

/-- Where each page that is asked for is had at the fourth attempt at the latest, and the attempts
before it fail for now, a listing of 1000 comments at most finds exactly the keys that the texts of
the comments tell. It asks for the first page, the second one and so on, for none again once it is
had, up to the first page that is not full or the tenth one. After each failure there is one pause,
between half of its bound and its bound, which starts anew on each page. A body that is no JSON is
a failure for now only where it is malformed; any other one ends the listing. -/
theorem keysAt_of_lists (c : Client σ) (p : PullRequest) (path : String) {ds : List Data}
    (hmost : ds.length ≤ 1000) {s s' : σ} {misses : List (List Rat)}
    (hlists : Lists c p (server ++ path) ds 1 s misses s') (hpages : misses.length = pagesAsked ds)
    (events : List Event) (j : Journal) :
    (∃ keys, p.keysAt c (server ++ path) (⟨s, events⟩, j) =
        (.ok keys, (⟨s', events ++ eventsOfPages p (server ++ path) 1 misses⟩, j)) ∧
      keys.Nodup ∧ ∀ key, key ∈ keys ↔
        ∃ d ∈ ds, ∃ body, d.get? "body" = some (.text body) ∧ Marker.key? body = some key) ∧
    (∀ page, 0 < page → page < pagesAsked ds → (pageOf ds page).length = 100) ∧
    (pagesAsked ds = 10 ∨ (pageOf ds (pagesAsked ds)).length < 100) ∧
    (∀ shares ∈ misses, shares.length ≤ 3 ∧ ∀ (k : Nat) (share : Rat), shares[k]? = some share →
      pauseBound k / 2 ≤ pauseSeconds share k ∧ pauseSeconds share k ≤ pauseBound k) ∧
    ∀ status body text e, isSuccess status = true → Text.Utf8.decode? body = some text →
      Json.read text = .error e →
      ((Reply.answer status body).FailsForNow ↔ e = .malformed) ∧
      ∀ s₁ s₂, c.respond (p.pageRequest (server ++ path) 1) s₁ = (.answer status body, s₂) →
        e ≠ .malformed → p.keysAt c (server ++ path) (⟨s₁, events⟩, j) = (.error (.ofJson e),
          (⟨s₂, events ++ [.request (p.pageRequest (server ++ path) 1)]⟩, j)) := by
  obtain ⟨hfull, hlast⟩ := pagesAsked_stops ds
  refine ⟨⟨_, keysFrom_of_lists (m := 0) (read_pageRequest p path) hlists ?_ [] events j, ?_, ?_⟩,
    hfull, hlast, fun shares hshares => ?_, fun status body text e hstatus hbody hread =>
      ⟨failsForNow_iff hstatus hbody hread, fun s₁ s₂ hreply hstops =>
        keysAt_of_readError c p path hstatus hbody hread hstops hreply events j⟩⟩
  · rw [hpages, Nat.zero_mul, Nat.sub_zero]
    rfl
  · exact nodup_addKeys .nil _
  · intro key
    have hall : (ds.drop (0 * pageSize)).take (maxPages * pageSize) = ds := by
      rw [Nat.zero_mul, List.drop_zero]
      exact List.take_of_length_le hmost
    rw [hall, mem_addKeys, List.mem_filterMap, or_iff_right List.not_mem_nil]
    simp only [itemKey?_eq_some_iff]
  · obtain ⟨hattempts, hbetween⟩ := attempts_of_lists hlists shares hshares
    refine ⟨Nat.le_of_lt_succ hattempts, fun k share hshare => ?_⟩
    obtain ⟨hleast, hgreatest⟩ := hbetween share (List.mem_of_getElem? hshare)
    exact pauseSeconds_between hleast hgreatest k

/-- A server whose replies are known beforehand; pauses take the greatest share. -/
def scripted : Client (List Reply) where
  respond _ replies := (replies.headD .unreachable, replies.tail)
  share replies := (1, replies)

/-- One comment is found although the page it is on is not had before the fourth attempt. -/
theorem keysAt_of_lists_scripted :
    [sampleItem].length ≤ 1000 ∧ [[(1 : Rat), 1, 1]].length = pagesAsked [sampleItem] ∧
    Lists scripted samplePull samplePull.placeUrl [sampleItem] 1
      [.answer 503 ⟨#[]⟩, .timedOut, .answer 200 ⟨#[]⟩, .answer 200 (samplePage true)]
      [[1, 1, 1]] [] ∧
    ∃ keys, samplePull.keysAt scripted samplePull.placeUrl (⟨[.answer 503 ⟨#[]⟩, .timedOut,
        .answer 200 ⟨#[]⟩, .answer 200 (samplePage true)], []⟩, {}) =
      (.ok keys, (⟨[], eventsFrom (samplePull.pageRequest samplePull.placeUrl 1) 0 [1, 1, 1]⟩, {})) ∧
      ∀ key, key ∈ keys ↔ key = "k" := by
  have hempty : Text.Utf8.decode? ⟨#[]⟩ = some "" := by decide +kernel
  have hlists : Lists scripted samplePull samplePull.placeUrl [sampleItem] 1
      [.answer 503 ⟨#[]⟩, .timedOut, .answer 200 ⟨#[]⟩, .answer 200 (samplePage true)]
      [[1, 1, 1]] [] := by
    have hshare : (0 : Rat) ≤ 1 ∧ (1 : Rat) ≤ 1 := by decide
    refine .next (.again rfl (.busy (by decide)) rfl hshare (.again rfl .timedOut rfl hshare
      (.again rfl (.noValue (by decide) hempty rfl) rfl hshare
        (.answer rfl (by decide) (readBody_samplePage true))))) (by decide) .done
  have hkey : Marker.key? sampleBody = some "k" := by decide +kernel
  obtain ⟨⟨keys, hkeys, -, hmem⟩, -⟩ := keysAt_of_lists scripted samplePull _ (by decide) hlists rfl
    [] {}
  refine ⟨by decide, rfl, hlists, keys, hkeys, fun key => ?_⟩
  rw [hmem]
  simp only [List.mem_singleton, exists_eq_left, get?_sampleItem, Option.some.injEq,
    Data.text.injEq, hkey, eq_comm]

/-! ### A list that is not closed -/

/-- A list of a number of many digits that is not closed. -/
def unclosed (digits : Nat) : ByteArray := ⟨(0x5b :: List.replicate digits 0x31).toArray⟩

theorem decode?_unclosed (n : Nat) :
    Text.Utf8.decode? (unclosed n) = some (String.ofList ('[' :: List.replicate n '1')) := by
  have hascii : ∀ b ∈ (unclosed n).data.toList, b < 0x80 := by
    intro b hb
    rcases List.mem_cons.1 hb with rfl | hb
    · decide
    · obtain rfl := List.eq_of_mem_replicate hb
      decide
  rw [Text.Utf8.decode?_of_ascii hascii]
  change some (String.ofList (List.map _ (0x5b :: List.replicate n 0x31))) = _
  rw [List.map_cons, List.map_replicate]
  rfl

def ones (n : Nat) : List Text.Letter := List.replicate n (.whole '1')

theorem readNumber_ones (n : Nat) : Json.readNumber false (ones (n + 1)) =
    if Decimal.maxDigits < n + 1 then .error (.tooManyDigits (n + 1))
    else .ok (.integer (Json.digitsValue (List.replicate (n + 1) '1')), []) := by
  have hone : ('1').isDigit = true := by decide
  have hdigits : Json.takeDigits (ones (n + 1)) = (List.replicate (n + 1) '1', []) := by
    simp [Json.takeDigits, ones, Text.Letter.char, hone]
  have hread : Json.readNumber false (ones (n + 1)) =
      if Decimal.maxDigits < (List.replicate (n + 1) '1').length then
        .error (.tooManyDigits (List.replicate (n + 1) '1').length)
      else .ok (.integer (Json.digitsValue (List.replicate (n + 1) '1')), []) := by
    rw [Json.readNumber, hdigits]
    · rfl
    · nofun
  rwa [List.length_replicate] at hread

theorem readItems_ones (fuel room n : Nat) : Json.readItems (fuel + 2) room (ones (n + 1)) =
    .error (if Decimal.maxDigits < n + 1 then .tooManyDigits (n + 1) else .malformed) := by
  have hvalue : Json.readValue (fuel + 1) room (ones (n + 1)) =
      Json.readNumber false (ones (n + 1)) := by
    cases room <;> rfl
  rw [Json.readItems, hvalue, readNumber_ones]
  split
  next => rfl
  next => rfl

/-- An unclosed list is malformed, unless it is not read to its end for a number that is too
long. -/
theorem read_unclosed (n : Nat) :
    Json.read (String.ofList ('[' :: List.replicate (n + 1) '1')) =
      .error (if Decimal.maxDigits < n + 1 then .tooManyDigits (n + 1) else .malformed) := by
  have hletters : Text.lettersOf (String.ofList ('[' :: List.replicate (n + 1) '1')) =
      .whole '[' :: ones (n + 1) := by
    rw [Text.lettersOf, String.toList_ofList, List.map_cons, List.map_replicate]
    rfl
  have hlist (fuel room : Nat) :
      Json.readValue (fuel + 3) (room + 1) (.whole '[' :: ones (n + 1)) =
        .error (if Decimal.maxDigits < n + 1 then .tooManyDigits (n + 1) else .malformed) := by
    change (Json.readItems (fuel + 2) room (ones (n + 1)) >>= _) = _
    rw [readItems_ones]
    rfl
  have hgap : Json.skipGaps (.whole '[' :: ones (n + 1)) = .whole '[' :: ones (n + 1) := rfl
  have hfuel : 2 * (Text.Letter.whole '[' :: ones (n + 1)).length + 1 = (2 * n + 2) + 3 := by
    rw [List.length_cons, ones, List.length_replicate]
    omega
  rw [Json.read, Json.parse, hletters, hgap, hfuel, show Json.maxDepth = 989 + 1 from rfl, hlist]
  rfl

theorem keysAt_of_unclosed {n : Nat} (h : Decimal.maxDigits < n + 1) (replies : List Reply) :
    samplePull.keysAt scripted samplePull.placeUrl
      (⟨.answer 200 (unclosed (n + 1)) :: replies, []⟩, {}) = (.error (.tooManyDigits (n + 1)),
        (⟨replies, [.request (samplePull.pageRequest samplePull.placeUrl 1)]⟩, {})) := by
  have hread : Json.read (String.ofList ('[' :: List.replicate (n + 1) '1')) =
      .error (.tooManyDigits (n + 1)) := by
    rw [read_unclosed, if_pos h]
  exact keysAt_of_readError scripted samplePull _ (by decide) (decode?_unclosed (n + 1)) hread
    nofun rfl [] {}

/-- An unclosed list is no value, whatever its number of digits, but where the number is too long
the page is not asked for again, although it would be had then. -/
theorem keysAt_unclosed :
    (∀ n d, Json.read (String.ofList ('[' :: List.replicate (n + 1) '1')) ≠ .ok d) ∧
    Text.Utf8.decode? (unclosed 4301) = some (String.ofList ('[' :: List.replicate 4301 '1')) ∧
    readBody (samplePage true) = .ok (.list [sampleItem]) ∧ itemKey? sampleItem = some "k" ∧
    samplePull.keysAt scripted samplePull.placeUrl
      (⟨[.answer 200 (unclosed 4301), .answer 200 (samplePage true)], []⟩, {}) =
      (.error (.tooManyDigits 4301), (⟨[.answer 200 (samplePage true)],
        [.request (samplePull.pageRequest samplePull.placeUrl 1)]⟩, {})) := by
  have hkey : Marker.key? sampleBody = some "k" := by decide +kernel
  refine ⟨fun n d => ?_, decode?_unclosed 4301, readBody_samplePage true, ?_,
    keysAt_of_unclosed (n := 4300) (by decide) _⟩
  · rw [read_unclosed]
    nofun
  · exact itemKey?_eq_some_iff.2 ⟨_, get?_sampleItem, hkey⟩

end RuleReview.Review.PullRequest
