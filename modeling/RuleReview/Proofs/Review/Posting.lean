import RuleReview.Proofs.Decimal.Integer
import RuleReview.Proofs.Http
import RuleReview.Proofs.Stop
import RuleReview.Review.PullRequest

/-! Listing the comments on a pull request and handing over one more. The keys on all pages are
found, unless the listing breaks off, which is logged. A comment is handed over again only if a
listing does not show it, so it is there twice only if a listing broke off. -/

namespace RuleReview.Review.PullRequest

open Http

def pageOf (ds : List Data) (page : Nat) : List Data :=
  (ds.drop ((page - 1) * pageSize)).take pageSize

/-- The comments on some pages are those on the first of them and on the others. -/
theorem take_pages (ds : List Data) (m left : Nat) :
    (ds.drop (m * pageSize)).take ((left + 1) * pageSize) =
      pageOf ds (m + 1) ++ (ds.drop ((m + 1) * pageSize)).take (left * pageSize) := by
  rw [Nat.succ_mul left, Nat.add_comm, List.take_add, List.drop_drop, ← Nat.succ_mul]
  rfl

/-- No comments follow a page that is not full. -/
theorem drop_of_short {ds : List Data} {m : Nat} (hshort : (pageOf ds (m + 1)).length < pageSize) :
    ds.drop ((m + 1) * pageSize) = [] := by
  rw [pageOf, List.length_take, List.length_drop, Nat.add_sub_cancel] at hshort
  refine List.drop_eq_nil_of_le ?_
  rw [Nat.succ_mul]
  omega

/-- What is asked of a server that keeps the comments at an address: a page is served as it is
or fails, a comment that is handed over is added or not, whatever is answered, and nothing else
changes the comments. -/
structure Serves {σ : Type} (c : Client σ) (comments : σ → List Data) (p : PullRequest)
    (url : String) : Prop where
  share : ∀ s, comments (c.share s).2 = comments s
  get : ∀ page s, comments (c.respond (p.pageRequest url page) s).2 = comments s ∧
    ∀ d, (c.respond (p.pageRequest url page) s).1.outcome.bind readBody = .ok d →
      d = .list (pageOf (comments s) page)
  post : ∀ d s, comments (c.respond (p.postRequest url d) s).2 = comments s ∨
    ∃ item, item.get? "body" = d.get? "body" ∧
      comments (c.respond (p.postRequest url d) s).2 = comments s ++ [item]

/-- What is logged when the listing of the comments at an address breaks off. -/
def brokenOff (url : String) : Log.Entry :=
  ⟨.warning, .comments, "Could not list existing comments at " ++ url, none⟩

/-- How often the listing of the comments at an address broke off. -/
def timesBrokenOff (url : String) (j : Journal) : Nat := j.entries.count (brokenOff url)

theorem read_pageRequest (p : PullRequest) (path : String) (page : Nat) :
    Address.read (p.pageRequest (server ++ path) page).url =
      .ok (p.pageRequest (server ++ path) page).url := by
  have hself (s : String) : toString s = s := rfl
  have hdigits := Decimal.digits_ne_nil page
  have hlast := Decimal.isDigit_of_mem_digits (List.getLast_mem hdigits)
  have hurl : (p.pageRequest (server ++ path) page).url.toList = "https:".toList ++
      ("//api.github.com".toList ++ path.toList ++ "?per_page=100&page=".toList ++
        (Decimal.digits page).dropLast ++ [(Decimal.digits page).getLast hdigits]) := by
    rw [List.append_assoc _ (List.dropLast _), List.dropLast_append_getLast,
      ← Decimal.toList_toString_nat]
    have hsize : Nat.toDigits 10 pageSize = "100".toList := by decide
    simp [pageRequest, server, hself, hsize]
  refine Address.read_https hurl (Decimal.isBlank_of_isDigit hlast) ?_
  rintro heq
  rw [heq] at hlast
  cases hlast

theorem mem_addKeys {keys more : List String} {key : String} :
    key ∈ addKeys keys more ↔ key ∈ keys ∨ key ∈ more := by
  induction more generalizing keys with
  | nil => simp [addKeys]
  | cons k more ih =>
    rw [addKeys, List.foldl_cons, ← addKeys, ih, List.mem_cons]
    split <;> grind

variable {σ : Type} {c : Client σ} {comments : σ → List Data} {p : PullRequest} {url : String}

/-- A page is asked for under the address in its request; where it is not had, it is told why. -/
theorem attempt_get (hread : ∀ page, Address.read (p.pageRequest url page).url =
      .ok (p.pageRequest url page).url) (page : Nat) (s : Connection σ × Journal) :
    ((Http.get c (p.pageRequest url page) maxGets).attempt : HttpM σ (Except Fault Data)) s =
      (.ok (getFrom c (p.pageRequest url page) 0 maxGets s).1,
        (getFrom c (p.pageRequest url page) 0 maxGets s).2) := by
  rw [Http.get, hread]
  rfl

section Get

variable (hserves : Serves c comments p url)
include hserves

theorem comments_getFrom {page number left : Nat} {k k' : Connection σ} {j j' : Journal}
    {x : Except Fault Data}
    (hrun : getFrom c (p.pageRequest url page) number left (k, j) = (x, (k', j'))) :
    comments k'.server = comments k.server ∧ j' = j ∧
      ∀ d, x = .ok d → d = .list (pageOf (comments k.server) page) := by
  induction left generalizing number k with
  | zero =>
    cases hrun
    exact ⟨rfl, rfl, fun d hd => by cases hd⟩
  | succ left ih =>
    obtain ⟨hsame, hpage⟩ := hserves.get page k.server
    rw [getFrom, Stop.bind_apply, send_apply] at hrun
    cases hreply : (c.respond (p.pageRequest url page) k.server).1.outcome.bind readBody with
    | ok d =>
      simp only [hreply] at hrun
      cases hrun
      refine ⟨hsame, rfl, fun d' hd' => ?_⟩
      cases hd'
      exact hpage d hreply
    | error f =>
      simp only [hreply] at hrun
      split at hrun
      next =>
        rw [Stop.bind_apply, pause_apply] at hrun
        have hrest := ih hrun
        dsimp only at hrest
        rwa [hserves.share, hsame] at hrest
      next =>
        cases hrun
        exact ⟨hsame, rfl, fun d hd => by cases hd⟩

/-- A listing finds the keys of as many comments as the pages hold, or says that it broke off. -/
theorem keysFrom_cases (hread : ∀ page, Address.read (p.pageRequest url page).url =
      .ok (p.pageRequest url page).url) {keys : List String} {m left : Nat} {k k' : Connection σ}
    {j j' : Journal} {x : Except Fault (List String)}
    (hrun : keysFrom c p url keys (m + 1) left (k, j) = (x, (k', j'))) :
    comments k'.server = comments k.server ∧ (j' = j.log (brokenOff url) ∨
      j' = j ∧ ∀ ks, x = .ok ks → ∀ key, key ∈ ks ↔ key ∈ keys ∨
        ∃ d ∈ ((comments k.server).drop (m * pageSize)).take (left * pageSize),
          itemKey? d = some key) := by
  induction left generalizing keys m k j with
  | zero =>
    cases hrun
    refine ⟨rfl, .inr ⟨rfl, fun ks hks key => ?_⟩⟩
    cases hks
    simp
  | succ left ih =>
    rw [keysFrom, Stop.bind_apply, attempt_get hread] at hrun
    cases hpage : getFrom c (p.pageRequest url (m + 1)) 0 maxGets (k, j) with
    | mk y s =>
      obtain ⟨k1, j1⟩ := s
      obtain ⟨hsame, rfl, hd⟩ := comments_getFrom hserves hpage
      rw [hpage] at hrun
      cases y with
      | error f =>
        dsimp only at hrun
        cases hends : endsListing f with
        | false =>
          rw [hends] at hrun
          cases hrun
          exact ⟨hsame, .inr ⟨rfl, nofun⟩⟩
        | true =>
          rw [hends] at hrun
          cases hrun
          exact ⟨hsame, .inl rfl⟩
      | ok d =>
        obtain rfl := hd d rfl
        dsimp only [Data.items?, Option.getD_some] at hrun
        split at hrun
        next hshort =>
          cases hrun
          refine ⟨hsame, .inr ⟨rfl, fun ks hks key => ?_⟩⟩
          cases hks
          rw [take_pages, drop_of_short hshort, List.take_nil, List.append_nil, mem_addKeys,
            List.mem_filterMap]
        next =>
          obtain ⟨hrest, hfound⟩ := ih hrun
          rw [hsame] at hrest hfound
          refine ⟨hrest, hfound.imp_right fun ⟨hj, hfound⟩ => ⟨hj, fun ks hks key => ?_⟩⟩
          rw [hfound ks hks key, take_pages, mem_addKeys, List.mem_filterMap]
          simp only [List.mem_append, or_and_right, exists_or, or_assoc]

end Get

end RuleReview.Review.PullRequest

namespace RuleReview.Review.PullRequest

open Http

/-! ### Comments with a key -/

def carrying (key : String) (ds : List Data) : Nat := ds.countP (itemKey? · = some key)

/-- The most comments that a listing shows. -/
def listed : Nat := maxPages * pageSize

theorem timesBrokenOff_log_brokenOff (url : String) (j : Journal) :
    timesBrokenOff url (j.log (brokenOff url)) = timesBrokenOff url j + 1 := by
  simp [timesBrokenOff, Journal.log]

theorem timesBrokenOff_le_log (url : String) (j : Journal) (e : Log.Entry) :
    timesBrokenOff url j ≤ timesBrokenOff url (j.log e) := by
  simp [timesBrokenOff, Journal.log, List.count_append]

theorem itemKey?_eq_of_body {d d' : Data} (h : d.get? "body" = d'.get? "body") :
    itemKey? d = itemKey? d' := by
  rw [itemKey?, itemKey?, h]

variable {σ : Type} {c : Client σ} {comments : σ → List Data} {p : PullRequest} {url : String}

/-- Whether a comment shows in a listing, or there is room for one more in it. -/
def IsOpen (key : String) (ds : List Data) : Prop :=
  ds.length < listed ∨ ∃ d ∈ ds.take listed, itemKey? d = some key

theorem exists_mem_take_concat {key : String} {ds : List Data} (hopen : IsOpen key ds)
    {item : Data} (hitem : itemKey? item = some key) :
    ∃ d ∈ (ds ++ [item]).take listed, itemKey? d = some key := by
  obtain hroom | ⟨d, hd, hkey⟩ := hopen
  · refine ⟨item, ?_, hitem⟩
    rw [List.take_of_length_le (by rw [List.length_append, List.length_singleton]; omega)]
    exact List.mem_concat_self
  · refine ⟨d, ?_, hkey⟩
    rw [List.take_append]
    exact List.mem_append_left _ hd

/-! ### Handing over a comment -/

section Post

variable (hserves : Serves c comments p url)
include hserves

/-- A comment that is handed over is not taken, or it shows in a listing from then on. -/
theorem comments_respond_post {d : Data} {key : String} (hd : itemKey? d = some key) {s : σ}
    (hopen : IsOpen key (comments s)) :
    comments (c.respond (p.postRequest url d) s).2 = comments s ∨
      carrying key (comments (c.respond (p.postRequest url d) s).2) =
        carrying key (comments s) + 1 ∧
      ∃ d' ∈ (comments (c.respond (p.postRequest url d) s).2).take listed,
        itemKey? d' = some key := by
  obtain hsame | ⟨item, hbody, hadded⟩ := hserves.post d s
  · exact .inl hsame
  · have hitem : itemKey? item = some key := (itemKey?_eq_of_body hbody).trans hd
    rw [hadded]
    refine .inr ⟨?_, exists_mem_take_concat hopen hitem⟩
    simp [carrying, hitem]

variable (hread : ∀ page,
  Address.read (p.pageRequest url page).url = .ok (p.pageRequest url page).url)
include hread

/-- A look whether a comment is there tells, or the listing breaks off. -/
theorem happened_cases {key : String} {k k' : Connection σ} {j j' : Journal}
    {x : Except Fault Bool}
    (hrun : (do return (← p.keysAt c url).contains key : HttpM σ Bool) (k, j) = (x, (k', j'))) :
    comments k'.server = comments k.server ∧ (j' = j.log (brokenOff url) ∨
      j' = j ∧ ∀ b, x = .ok b → (b = true ↔
        ∃ d ∈ (comments k.server).take listed, itemKey? d = some key)) := by
  rw [Stop.bind_apply, keysAt] at hrun
  cases hkeys : keysFrom c p url [] 1 maxPages (k, j) with
  | mk y s =>
    obtain ⟨k1, j1⟩ := s
    obtain ⟨hsame, hlisted⟩ := keysFrom_cases hserves hread hkeys
    rw [hkeys] at hrun
    cases y with
    | error f =>
      cases hrun
      exact ⟨hsame, hlisted.imp_right fun ⟨hj, _⟩ => ⟨hj, nofun⟩⟩
    | ok ks =>
      cases hrun
      refine ⟨hsame, hlisted.imp_right fun ⟨hj, hks⟩ => ⟨hj, fun b hb => ?_⟩⟩
      cases hb
      rw [List.contains_iff_mem, hks ks rfl key]
      simp [listed]

/-- Handing a comment over again: where it was taken before, a listing shows it or breaks off. -/
theorem carrying_retry {key : String} {before : List Data} (hopen : IsOpen key before)
    {number : Nat} {rest : HttpM σ Bool} {k k' : Connection σ} {j j' : Journal}
    {x : Except Fault Bool}
    (hposted : comments k.server = before ∨
      carrying key (comments k.server) = carrying key before + 1 ∧
        ∃ d ∈ (comments k.server).take listed, itemKey? d = some key)
    (hrest : ∀ {k : Connection σ} {j : Journal}, IsOpen key (comments k.server) →
      rest (k, j) = (x, (k', j')) → carrying key (comments k'.server) + timesBrokenOff url j ≤
        carrying key (comments k.server) + 1 + timesBrokenOff url j')
    (hrun : (do
      if ← (do return (← p.keysAt c url).contains key) then return true
      pause c number
      rest : HttpM σ Bool) (k, j) = (x, (k', j'))) :
    carrying key (comments k'.server) + timesBrokenOff url j ≤
      carrying key before + 1 + timesBrokenOff url j' := by
  have hmost : carrying key (comments k.server) ≤ carrying key before + 1 := by
    obtain hsame | ⟨hone, -⟩ := hposted
    · rw [hsame]
      omega
    · omega
  rw [Stop.bind_apply] at hrun
  cases hlook : (do return (← p.keysAt c url).contains key : HttpM σ Bool) (k, j) with
  | mk y s =>
    obtain ⟨k1, j1⟩ := s
    obtain ⟨hsame, hshown⟩ := happened_cases hserves hread hlook
    have hlogged : timesBrokenOff url j ≤ timesBrokenOff url j1 := by
      obtain rfl | ⟨rfl, -⟩ := hshown
      · exact timesBrokenOff_le_log _ _ _
      · exact Nat.le_refl _
    rw [hlook] at hrun
    cases y with
    | error f =>
      cases hrun
      rw [hsame]
      omega
    | ok b =>
      cases b with
      | true =>
        cases hrun
        rw [hsame]
        omega
      | false =>
        dsimp only at hrun
        rw [if_neg Bool.false_ne_true, Stop.bind_apply, pause_apply] at hrun
        have hpaused : comments (c.share k1.server).2 = comments k.server :=
          (hserves.share _).trans hsame
        have hrest (hopen : IsOpen key (comments k.server)) := hrest (hpaused ▸ hopen) hrun
        dsimp only at hrest
        rw [hpaused] at hrest
        -- a listing that broke off allows for one more; a whole one shows what was taken
        obtain rfl | ⟨rfl, hshown⟩ := hshown
        · have hrest := hrest (hposted.elim (· ▸ hopen) fun h => .inr h.2)
          rw [timesBrokenOff_log_brokenOff] at hrest
          omega
        · obtain hunchanged | ⟨-, hthere⟩ := hposted
          · have hrest := hrest (hunchanged ▸ hopen)
            rw [hunchanged] at hrest
            omega
          · exact absurd ((hshown false rfl).2 hthere) Bool.false_ne_true

/-- The number of comments with a key grows by one at most, and by one more for each listing
that breaks off. -/
theorem carrying_postFrom {d : Data} {key what : String} (hd : itemKey? d = some key)
    {number left : Nat} {k k' : Connection σ} {j j' : Journal} {x : Except Fault Bool}
    (hopen : IsOpen key (comments k.server))
    (hrun : postFrom c (p.postRequest url d) what
      (do return (← p.keysAt c url).contains key) number left (k, j) = (x, (k', j'))) :
    carrying key (comments k'.server) + timesBrokenOff url j ≤
      carrying key (comments k.server) + 1 + timesBrokenOff url j' := by
  induction left generalizing number k j with
  | zero =>
    cases hrun
    omega
  | succ left ih =>
    have hposted := comments_respond_post hserves hd hopen
    rw [postFrom, Stop.bind_apply, send_apply] at hrun
    dsimp only at hrun
    generalize hk : (⟨(c.respond (p.postRequest url d) k.server).2,
      k.events ++ [.request (p.postRequest url d)]⟩ : Connection σ) = k1 at hrun
    have hserver : (c.respond (p.postRequest url d) k.server).2 = k1.server := by rw [← hk]
    rw [hserver] at hposted
    have hstopped {y : Except Fault Bool} {j1 : Journal}
        (hlogged : timesBrokenOff url j ≤ timesBrokenOff url j1)
        (h : (x, (k', j')) = (y, (k1, j1))) :
        carrying key (comments k'.server) + timesBrokenOff url j ≤
          carrying key (comments k.server) + 1 + timesBrokenOff url j' := by
      cases h
      obtain hsame | ⟨hone, -⟩ := hposted
      · rw [hsame]
        omega
      · omega
    cases hreply : (c.respond (p.postRequest url d) k.server).1 with
    | unreachable =>
      rw [hreply] at hrun
      exact hstopped (timesBrokenOff_le_log _ _ _) hrun.symm
    | timedOut =>
      rw [hreply] at hrun
      exact hstopped (timesBrokenOff_le_log _ _ _) hrun.symm
    | answer status body =>
      rw [hreply] at hrun
      dsimp only at hrun
      split at hrun
      next => exact hstopped (Nat.le_refl _) hrun.symm
      next =>
        split at hrun
        next => exact carrying_retry hserves hread hopen hposted ih hrun
        next => exact hstopped (timesBrokenOff_le_log _ _ _) hrun.symm

theorem carrying_postTo {d : Data} {key : String} (what : String) (hd : itemKey? d = some key)
    {k : Connection σ} (hopen : IsOpen key (comments k.server)) :
    carrying key (comments ((p.postTo c url what key d).outcome k).2.1.server) ≤
      carrying key (comments k.server) + 1 +
        timesBrokenOff url ((p.postTo c url what key d).outcome k).2.2 := by
  have hrun : postFrom c (p.postRequest url d) what
      (do return (← p.keysAt c url).contains key) 0 maxPosts (k, {}) =
        (((p.postTo c url what key d).outcome k).1, (((p.postTo c url what key d).outcome k).2.1,
          ((p.postTo c url what key d).outcome k).2.2)) := rfl
  exact carrying_postFrom hserves hread hd hopen hrun

end Post

/-! ### A server that takes comments and says that it failed to -/

theorem pageRequest_url_inj {p : PullRequest} {url : String} {m n : Nat}
    (h : (p.pageRequest url m).url = (p.pageRequest url n).url) : m = n := by
  have hself (s : String) : toString s = s := rfl
  have hdigits : Decimal.digits m = Decimal.digits n := by
    have h := congrArg String.toList h
    simpa [pageRequest, hself, Decimal.digits] using h
  calc m = Decimal.ofDigits ((Decimal.digits m).filterMap Text.digitValue?) :=
        (Decimal.ofDigits_digits m).symm
    _ = n := by rw [hdigits, Decimal.ofDigits_digits]

def samplePull : PullRequest := ⟨"t", "o/r", 5, "abc"⟩

def sampleBody : String := Marker.ofSummary "k"

def samplePage (filled : Bool) : ByteArray :=
  if filled then "[\x7b\"body\":\"<!-- codesentry:v1 key=k -->\"\x7d]".toUTF8 else "[]".toUTF8

def itemsOn (page : ByteArray) : List Data :=
  ((readBody page).toOption.bind Data.items?).getD []

/-- A comment with this text. -/
def sampleItem : Data := (itemsOn (samplePage true)).headD .null

theorem readBody_of_isSome {page : ByteArray}
    (h : ((readBody page).toOption.bind Data.items?).isSome) :
    readBody page = .ok (.list (itemsOn page)) := by
  obtain ⟨ds, hds⟩ := Option.isSome_iff_exists.1 h
  obtain ⟨d, hd, hitems⟩ := Option.bind_eq_some_iff.1 hds
  have hread : readBody page = .ok d := Stop.eq_ok_of_toOption hd
  rw [itemsOn, hds, hread]
  cases d <;> cases hitems
  rfl

theorem readBody_samplePage (filled : Bool) :
    readBody (samplePage filled) = .ok (.list (List.replicate filled.toNat sampleItem)) := by
  have hsome : ((readBody (samplePage filled)).toOption.bind Data.items?).isSome := by
    revert filled
    decide +kernel
  have hlength : (itemsOn (samplePage filled)).length = filled.toNat := by
    revert filled
    decide +kernel
  rw [readBody_of_isSome hsome]
  cases filled with
  | false => rw [List.eq_nil_of_length_eq_zero hlength]; rfl
  | true =>
    obtain ⟨item, hitem⟩ := List.length_eq_one_iff.1 hlength
    rw [sampleItem, hitem]
    rfl

theorem get?_sampleItem : sampleItem.get? "body" = some (.text sampleBody) := by
  have htext : (sampleItem.get? "body").bind Data.text? = some sampleBody := by decide +kernel
  obtain ⟨value, hvalue, htext⟩ := Option.bind_eq_some_iff.1 htext
  rw [hvalue]
  cases value <;> cases htext
  rfl

/-- The number of comments of a server that takes each one with the text and says that it failed
to. It lists none or one, or it never does. -/
def hasty (lists : Bool) : Client Nat where
  respond r n :=
    match r.verb with
    | .post =>
      let given := (r.payload.bind (·.get? "body")).bind Data.text?
      (.answer 502 ⟨#[]⟩, if given = some sampleBody then n + 1 else n)
    | .get =>
      let listed := lists ∧ n ≤ 1 ∧ r.url = (samplePull.pageRequest samplePull.placeUrl 1).url
      (if listed then .answer 200 (samplePage (n == 1)) else .answer 404 ⟨#[]⟩, n)
  share n := (0, n)

theorem serves_hasty (lists : Bool) :
    Serves (hasty lists) (List.replicate · sampleItem) samplePull samplePull.placeUrl where
  share _ := rfl
  get page n := by
    refine ⟨rfl, fun d hd => ?_⟩
    by_cases hlisted : lists ∧ n ≤ 1 ∧ (samplePull.pageRequest samplePull.placeUrl page).url =
        (samplePull.pageRequest samplePull.placeUrl 1).url
    · obtain rfl := pageRequest_url_inj hlisted.2.2
      have hserved : ((hasty lists).respond (samplePull.pageRequest samplePull.placeUrl 1) n).1 =
          .answer 200 (samplePage (n == 1)) := if_pos hlisted
      rw [hserved] at hd
      have hpage : readBody (samplePage (n == 1)) = .ok d := hd
      rw [readBody_samplePage] at hpage
      obtain rfl := Except.ok.inj hpage
      match n, hlisted.2.1 with
      | 0, _ => rfl
      | 1, _ => rfl
    · have hfails : ((hasty lists).respond (samplePull.pageRequest samplePull.placeUrl page) n).1 =
          .answer 404 ⟨#[]⟩ := if_neg hlisted
      rw [hfails] at hd
      cases hd
  post d n := by
    by_cases hgiven : (d.get? "body").bind Data.text? = some sampleBody
    · have htaken : (hasty lists).respond (samplePull.postRequest samplePull.placeUrl d) n =
          (.answer 502 ⟨#[]⟩, n + 1) := congrArg (Prod.mk _) (if_pos hgiven)
      obtain ⟨value, hvalue, htext⟩ := Option.bind_eq_some_iff.1 hgiven
      refine .inr ⟨sampleItem, ?_, ?_⟩
      · rw [hvalue, get?_sampleItem]
        cases value <;> cases htext
        rfl
      · rw [htaken]
        exact List.replicate_succ'
    · have hrefused : (hasty lists).respond (samplePull.postRequest samplePull.placeUrl d) n =
          (.answer 502 ⟨#[]⟩, n) := congrArg (Prod.mk _) (if_neg hgiven)
      rw [hrefused]
      exact .inl rfl

/-! ### Comments that are there once -/

theorem itemKey?_payload (comment : Comment) (commit : String) :
    itemKey? (payload comment commit) = Marker.key? comment.body := rfl

/-- Whatever a server answers, a comment with a new key is there once at most after it was handed
over, and once more for each listing that broke off. -/
theorem carrying_le (c : Client σ) (comments : σ → List Data) (p : PullRequest) {body key : String}
    (hbody : Marker.key? body = some key) {k : Connection σ}
    (hfew : (comments k.server).length < 1000) (hnew : carrying key (comments k.server) = 0) :
    (Serves c comments p p.placeUrl → ∀ path position,
      let after := (((p.sink c).post ⟨path, position, body, key⟩).outcome k).2
      carrying key (comments after.1.server) ≤ 1 + timesBrokenOff p.placeUrl after.2) ∧
    (Serves c comments p p.wholeUrl →
      let after := (((p.sink c).postSummary body key).outcome k).2
      carrying key (comments after.1.server) ≤ 1 + timesBrokenOff p.wholeUrl after.2) := by
  refine ⟨fun hserves path position => ?_, fun hserves => ?_⟩
  · have hmost := carrying_postTo hserves (read_pageRequest p _)
      s!"review comment for {path} (position {position})"
      ((itemKey?_payload ⟨path, position, body, key⟩ p.commit).trans hbody) (.inl hfew)
    rwa [hnew] at hmost
  · have hmost := carrying_postTo hserves (read_pageRequest p _) "summary comment"
      (d := .object [("body", .text body)]) hbody (.inl hfew)
    rwa [hnew] at hmost

/-- A comment is handed over once although the server says that it failed to take it. -/
theorem carrying_le_hasty :
    Marker.key? sampleBody = some "k" ∧ carrying "k" (List.replicate 0 sampleItem) = 0 ∧
      Serves (hasty true) (List.replicate · sampleItem) samplePull samplePull.placeUrl ∧
      timesBrokenOff samplePull.placeUrl (((samplePull.sink (hasty true)).post
        ⟨"a.py", 1, sampleBody, "k"⟩).outcome ⟨0, []⟩).2.2 = 0 ∧
      carrying "k" (List.replicate (((samplePull.sink (hasty true)).post
        ⟨"a.py", 1, sampleBody, "k"⟩).outcome ⟨0, []⟩).2.1.server sampleItem) ≤ 1 := by
  have hkey : Marker.key? sampleBody = some "k" := by decide +kernel
  have hbroken : timesBrokenOff samplePull.placeUrl (((samplePull.sink (hasty true)).post
      ⟨"a.py", 1, sampleBody, "k"⟩).outcome ⟨0, []⟩).2.2 = 0 := by
    decide +kernel
  have hmost := (carrying_le (hasty true) (List.replicate · sampleItem) samplePull hkey
    (k := ⟨0, []⟩) (by decide) rfl).1 (serves_hasty true) "a.py" 1
  dsimp only at hmost
  rw [hbroken] at hmost
  exact ⟨hkey, rfl, serves_hasty true, hbroken, hmost⟩

/-- If a server that takes comments says that it failed to and cannot list them, a comment is
there as often as it was handed over. -/
theorem carrying_hasty :
    Marker.key? sampleBody = some "k" ∧ carrying "k" (List.replicate 0 sampleItem) = 0 ∧
      Serves (hasty false) (List.replicate · sampleItem) samplePull samplePull.placeUrl ∧
      carrying "k" (List.replicate (((samplePull.sink (hasty false)).post
        ⟨"a.py", 1, sampleBody, "k"⟩).outcome ⟨0, []⟩).2.1.server sampleItem) = 3 :=
  ⟨by decide +kernel, rfl, serves_hasty false, by decide +kernel⟩

end RuleReview.Review.PullRequest
