import RuleReview.Http
import RuleReview.Proofs.Decimal.Nearest
import RuleReview.Proofs.Stop
import RuleReview.Proofs.Text.Words

/-! Requests that are sent again. An address is read as it stands where it needs no unwrapping. The
bound of the pauses doubles up to the longest pause, and each pause is between half of its bound and
its bound. A value that is given in the end is had, with one pause after each failure. A value is
handed over again only after a failure for now, a check that answered no, and a pause. -/

namespace RuleReview.Http.Address

theorem hasScheme_https (cs : List Char) : hasScheme ("https:".toList ++ cs) = true := by
  simp [hasScheme]

/-- An address without its fragment, if it has one, has the scheme that it had. -/
theorem hasScheme_bare_https {s cs : List Char} (hs : s = "https:".toList ++ cs) :
    hasScheme (if s.contains '#' then ((s.reverse.dropWhile (· != '#')).drop 1).reverse else s) =
      true := by
  split
  next hmem =>
    have hmem : '#' ∈ cs.reverse := by
      rw [hs] at hmem
      simpa using hmem
    obtain ⟨fragment, rest, hcs, hnot⟩ := List.eq_append_cons_of_mem hmem
    have hdrop : s.reverse.dropWhile (· != '#') = '#' :: (rest ++ "https:".toList.reverse) := by
      rw [hs, List.reverse_append, hcs, List.append_assoc, List.dropWhile_append_of_pos]
      · rfl
      · intro c hc
        simpa using fun h : c = '#' => hnot (h ▸ hc)
    rw [hdrop, List.drop_one, List.tail_cons, List.reverse_append, List.reverse_reverse]
    exact hasScheme_https _
  next => exact hs ▸ hasScheme_https _

/-- An address under a common scheme is read as it stands, unless it ends in what is not part
of it. -/
theorem read_https {s : String} {cs : List Char} {z : Char}
    (hs : s.toList = "https:".toList ++ (cs ++ [z])) (hblank : Text.isBlank z = false)
    (hfragment : z ≠ '#') : read s = .ok s := by
  have hlast : s.toList.getLast? = some z := by
    rw [hs, ← List.append_assoc]
    exact List.getLast?_concat
  have htrim : Text.trim s.toList = s.toList := by
    refine Text.IsTrimmed.trim_eq ⟨⟨'h', ?_, by decide⟩, z, hlast, hblank⟩
    rw [hs]
    rfl
  have hbrackets : withoutBrackets s.toList = s.toList := by rw [hs]; rfl
  have hword : withoutWord s.toList = s.toList := by rw [hs]; rfl
  have hend : withoutEmptyFragment s.toList = s.toList := by
    simp [withoutEmptyFragment, hlast, hfragment]
  have hscheme := hasScheme_bare_https hs
  rw [read, htrim, hbrackets, hword, hend]
  rw [if_pos hscheme, String.ofList_toList]

end RuleReview.Http.Address

namespace RuleReview.Http

/-! ### Pauses -/

/-- The bound of the pause after the failure with a number: half a second, doubled each time, up
to eight seconds. -/
def pauseBound (number : Nat) : Rat := min 8 (1 / 2 * 2 ^ number)

/-- The bound is a power of two, and so it is found without an error of rounding. -/
theorem exists_pauseBound_eq_zpow (number : Nat) : ∃ e : Int, -1 ≤ e ∧ pauseBound number = 2 ^ e ∧
    pauseBound number =
      let doubled := Decimal.nearest (Decimal.scaleUp 2 1 (number - 1))
      if doubled < longestPause then doubled else longestPause := by
  have hhalf : (1 / 2 : Rat) * 2 ^ number = 2 ^ ((number : Int) - 1) := by
    rw [zpow_sub₀ two_ne_zero, zpow_natCast, zpow_one, div_mul_eq_mul_div, one_mul]
  have hdoubled : Decimal.nearest (Decimal.scaleUp 2 1 (number - 1)) = 2 ^ ((number : Int) - 1) := by
    rw [Decimal.scaleUp_eq, Nat.cast_one, one_mul, Decimal.nearest_zpow (by omega)]
  dsimp only
  rw [pauseBound, hhalf, hdoubled, longestPause]
  split
  next hless => exact ⟨(number : Int) - 1, by omega, min_eq_right hless.le, min_eq_right hless.le⟩
  next hmore =>
    have height := min_eq_left (not_lt.1 hmore)
    exact ⟨3, by decide, height.trans (by norm_num), height⟩

/-- Whatever share the random part takes, a pause is between half of its bound and its bound. -/
theorem pauseSeconds_between {share : Rat} (hleast : 0 ≤ share) (hmost : share ≤ 1)
    (number : Nat) : pauseBound number / 2 ≤ pauseSeconds share number ∧
      pauseSeconds share number ≤ pauseBound number := by
  obtain ⟨e, he, hbound, hpause⟩ := exists_pauseBound_eq_zpow number
  have hhalf : pauseBound number / 2 = 2 ^ (e - 1) := by
    rw [hbound, zpow_sub₀ two_ne_zero, zpow_one]
  have hpart : Decimal.nearest (pauseBound number / 2 * share) ≤ pauseBound number / 2 := by
    rw [hhalf]
    exact Decimal.nearest_le_zpow (by positivity) (by omega)
      (mul_le_of_le_one_right (by positivity) hmost)
  have hnonneg : 0 ≤ Decimal.nearest (pauseBound number / 2 * share) :=
    Decimal.nearest_nonneg (by rw [hhalf]; positivity)
  have hseconds : pauseSeconds share number =
      Decimal.nearest (pauseBound number / 2 + Decimal.nearest (pauseBound number / 2 * share)) := by
    rw [hpause]
    rfl
  rw [hseconds]
  constructor
  · rw [hhalf] at hnonneg ⊢
    exact Decimal.zpow_le_nearest (by omega) (by linarith)
  · have hsum : pauseBound number / 2 + Decimal.nearest (pauseBound number / 2 * share) ≤ 2 ^ e := by
      rw [← hbound]
      linarith
    refine (Decimal.nearest_le_zpow ?_ (by omega) hsum).trans_eq hbound.symm
    rw [hhalf] at hnonneg ⊢
    positivity

/-! ### Asking again -/

/-- A reply after which a value is asked for again: the server is busy or there is none, or the
answer is no text or no value. -/
inductive Reply.FailsForNow : Reply → Prop
  | busy {status : Nat} {body : ByteArray} (h : status = 429 ∨ 500 ≤ status ∧ status < 600) :
    FailsForNow (.answer status body)
  | unreachable : FailsForNow .unreachable
  | timedOut : FailsForNow .timedOut
  | noText {status : Nat} {body : ByteArray} (hstatus : isSuccess status = true)
    (hbody : Text.Utf8.decode? body = none) : FailsForNow (.answer status body)
  | noValue {status : Nat} {body : ByteArray} {text : String} (hstatus : isSuccess status = true)
    (hbody : Text.Utf8.decode? body = some text) (htext : Json.read text = .error .malformed) :
    FailsForNow (.answer status body)

theorem outcome_answer_bind {status : Nat} (hstatus : isSuccess status = true) (body : ByteArray) :
    (Reply.answer status body).outcome.bind readBody = readBody body := by
  rw [Reply.outcome, if_pos hstatus]
  rfl

theorem isSuccess_iff {status : Nat} :
    isSuccess status = true ↔ 200 ≤ status ∧ status < 300 := by
  rw [isSuccess, Bool.and_eq_true, decide_eq_true_iff, decide_eq_true_iff]

theorem isPassing_iff {status : Nat} :
    isPassing status = true ↔ status = 429 ∨ 500 ≤ status ∧ status < 600 := by
  simp only [isPassing, Bool.or_eq_true, Bool.and_eq_true, beq_iff_eq, decide_eq_true_iff]
  omega

theorem Reply.FailsForNow.exists_mayPass {reply : Reply} (h : reply.FailsForNow) :
    ∃ f, reply.outcome.bind readBody = .error f ∧ mayPass f = true := by
  cases h with
  | @busy status body h =>
    have hfails : ¬ isSuccess status = true := by
      rw [isSuccess_iff]
      omega
    exact ⟨.refused status, by rw [outcome, if_neg hfails]; rfl, isPassing_iff.2 h⟩
  | unreachable => exact ⟨_, rfl, rfl⟩
  | timedOut => exact ⟨_, rfl, rfl⟩
  | noText hstatus hbody =>
    refine ⟨.undecodable, ?_, rfl⟩
    rw [outcome_answer_bind hstatus, readBody, hbody]
  | noValue hstatus hbody htext =>
    refine ⟨.malformedJson, ?_, rfl⟩
    rw [outcome_answer_bind hstatus, readBody, hbody]
    simp only [htext]
    rfl

/-- A body that is no value is one for now unless its reading stops at something else: a number
that is too long, or values that are nested too deep. -/
theorem failsForNow_iff {status : Nat} (hstatus : isSuccess status = true) {body : ByteArray}
    {text : String} (hbody : Text.Utf8.decode? body = some text) {e : Json.ReadError}
    (hread : Json.read text = .error e) :
    (Reply.answer status body).FailsForNow ↔ e = .malformed := by
  constructor
  · intro h
    cases h with
    | busy hbusy =>
      have hsuccess := isSuccess_iff.1 hstatus
      omega
    | noText _ hnone => exact nomatch hnone.symm.trans hbody
    | noValue _ htext hmalformed =>
      obtain rfl := Option.some.inj (htext.symm.trans hbody)
      exact Except.error.inj (hread.symm.trans hmalformed)
  · rintro rfl
    exact .noValue hstatus hbody hread

variable {σ : Type}

theorem send_apply (c : Client σ) (r : Request) (k : Connection σ) (j : Journal) :
    send c r (k, j) = (.ok (c.respond r k.server).1,
      (⟨(c.respond r k.server).2, k.events ++ [.request r]⟩, j)) := rfl

theorem pause_apply (c : Client σ) (number : Nat) (k : Connection σ) (j : Journal) :
    pause c number (k, j) = (.ok (), (⟨(c.share k.server).2,
      k.events ++ [.pause (pauseSeconds (c.share k.server).1 number)]⟩, j)) := rfl

/-- A server that is asked for a value again and again gives it after some failures. Each failure
comes with the share that the pause after it takes. -/
inductive Gives (c : Client σ) (r : Request) (d : Data) : σ → List Rat → σ → Prop
  | answer {s s' : σ} {status : Nat} {body : ByteArray}
    (hreply : c.respond r s = (.answer status body, s')) (hstatus : isSuccess status = true)
    (hbody : readBody body = .ok d) : Gives c r d s [] s'
  | again {s s₁ s₂ s' : σ} {reply : Reply} {share : Rat} {shares : List Rat}
    (hreply : c.respond r s = (reply, s₁)) (hfails : reply.FailsForNow)
    (hshare : c.share s₁ = (share, s₂)) (hbetween : 0 ≤ share ∧ share ≤ 1)
    (hrest : Gives c r d s₂ shares s') : Gives c r d s (share :: shares) s'

/-- What is done until a value is had: a request, and after each failure a pause and the request
once more. The first pause has a number. -/
def eventsFrom (r : Request) (number : Nat) : List Rat → List Event
  | [] => [.request r]
  | share :: shares =>
    .request r :: .pause (pauseSeconds share number) :: eventsFrom r (number + 1) shares

variable {c : Client σ} {r : Request} {d : Data}

/-- A value that is given within the attempts that are left is had. -/
theorem getFrom_of_gives {s s' : σ} {shares : List Rat} (h : Gives c r d s shares s')
    {number left : Nat} (hleft : shares.length < left) (events : List Event) (j : Journal) :
    getFrom c r number left (⟨s, events⟩, j) =
      (.ok d, (⟨s', events ++ eventsFrom r number shares⟩, j)) := by
  induction h generalizing number left events with
  | @answer s s' status body hreply hstatus hbody =>
    obtain ⟨left, rfl⟩ := Nat.exists_eq_succ_of_ne_zero (Nat.ne_of_gt hleft)
    have hvalue : (Reply.answer status body).outcome.bind readBody = .ok d :=
      (outcome_answer_bind hstatus body).trans hbody
    simp only [getFrom, Stop.bind_apply, send_apply, hreply, hvalue]
    rfl
  | @again s s₁ s₂ s' reply share shares hreply hfails hshare hbetween hrest ih =>
    obtain ⟨left, rfl⟩ := Nat.exists_eq_succ_of_ne_zero (Nat.ne_zero_of_lt hleft)
    have hless : shares.length < left := Nat.lt_of_succ_lt_succ hleft
    obtain ⟨f, hfailed, hpass⟩ := hfails.exists_mayPass
    have hmore : (mayPass f && left ≠ 0) = true := by
      rw [hpass, Bool.true_and, decide_eq_true_iff]
      omega
    simp only [getFrom, Stop.bind_apply, send_apply, hreply, hfailed, hmore, if_true, pause_apply,
      hshare, ih hless]
    rw [eventsFrom, List.append_assoc, List.append_assoc]
    rfl

theorem share_between_of_gives {s s' : σ} {shares : List Rat} (h : Gives c r d s shares s') :
    ∀ share ∈ shares, 0 ≤ share ∧ share ≤ 1 := by
  induction h with
  | answer => nofun
  | again hreply hfails hshare hbetween hrest ih => exact List.forall_mem_cons.2 ⟨hbetween, ih⟩

/-! ### Handing over -/

/-- A reply that says that a value was taken. -/
def Reply.IsTaken : Reply → Prop
  | .answer status _ => isSuccess status = true
  | _ => False

/-- A reply of a server that may take a value later on. -/
def Reply.IsBusy : Reply → Prop
  | .answer status _ => status = 429 ∨ 500 ≤ status ∧ status < 600
  | _ => False

/-- What is done to hand a value over: it is posted, a check tells whether it is there, or there is
a pause. -/
inductive Act
  | posted (reply : Reply)
  | checked (answer : Except Fault Bool)
  | paused

def Act.isPost : Act → Bool
  | .posted _ => true
  | _ => false

variable {α β : Type}

/-- A client beside which is written down what it is asked for. -/
def Client.noting (c : Client σ) : Client (σ × List Act) where
  respond r s :=
    let (reply, t) := c.respond r s.1
    (reply, (t, s.2 ++ [.posted reply]))
  share s :=
    let (share, t) := c.share s.1
    (share, (t, s.2 ++ [.paused]))

/-- A connection beside which something was written down. -/
def Connection.beside (k : Connection σ) (acts : List Act) : Connection (σ × List Act) :=
  ⟨(k.server, acts), k.events⟩

/-- A check beside which its answer is written down. What it sends itself is not. -/
def notingCheck (happened : HttpM σ Bool) : HttpM (σ × List Act) Bool := fun (k, j) =>
  let (answer, (k', j')) := happened (⟨k.server.1, k.events⟩, j)
  (answer, (k'.beside (k.server.2 ++ [.checked answer]), j'))

/-- A step ends, and it ends in the same way where some acts are written down beside it. -/
structure Notes (m : HttpM σ α) (m' : HttpM (σ × List Act) α) (s : Connection σ × Journal)
    (x : Except Fault α) (acts : List Act) (s' : Connection σ × Journal) : Prop where
  run : m s = (x, s')
  noted : ∀ w, m' (s.1.beside w, s.2) = (x, (s'.1.beside (w ++ acts), s'.2))

theorem notes_pure (a : α) (s : Connection σ × Journal) :
    Notes (pure a) (pure a) s (.ok a) [] s :=
  ⟨rfl, fun w => by rw [List.append_nil]; rfl⟩

theorem notes_send (c : Client σ) (r : Request) (s : Connection σ × Journal) :
    ∃ reply s', Notes (send c r) (send c.noting r) s (.ok reply) [.posted reply] s' :=
  ⟨_, _, rfl, fun _ => rfl⟩

theorem notes_pause (c : Client σ) (number : Nat) (s : Connection σ × Journal) :
    ∃ s', Notes (pause c number) (pause c.noting number) s (.ok ()) [.paused] s' :=
  ⟨_, rfl, fun _ => rfl⟩

theorem notes_check (happened : HttpM σ Bool) (s : Connection σ × Journal) :
    ∃ answer s', Notes happened (notingCheck happened) s answer [.checked answer] s' :=
  ⟨_, _, rfl, fun _ => rfl⟩

variable {s s' s'' : Connection σ × Journal}

/-- Where a step does one thing, it comes before what the next step does. -/
theorem Notes.bind {m : HttpM σ α} {m' : HttpM (σ × List Act) α} {f : α → HttpM σ β}
    {f' : α → HttpM (σ × List Act) β} {a : α} {x : Except Fault β} {act : Act} {acts : List Act}
    (hm : Notes m m' s (.ok a) [act] s') (hf : Notes (f a) (f' a) s' x acts s'') :
    Notes (m >>= f) (m' >>= f') s x (act :: acts) s'' where
  run := by
    rw [Stop.bind_apply, hm.run]
    exact hf.run
  noted w := by
    rw [Stop.bind_apply, hm.noted, List.append_cons w act acts]
    exact hf.noted (w ++ [act])

theorem Notes.bind_error {m : HttpM σ α} {m' : HttpM (σ × List Act) α} {e : Fault}
    {acts : List Act} (hm : Notes m m' s (.error e) acts s') (f : α → HttpM σ β)
    (f' : α → HttpM (σ × List Act) β) : Notes (m >>= f) (m' >>= f') s (.error e) acts s' where
  run := by rw [Stop.bind_apply, hm.run]
  noted w := by rw [Stop.bind_apply, hm.noted]

/-- What is done with some attempts left, and how it ends. -/
inductive Hands : (left : Nat) → List Act → Except Fault Bool → Prop
  | taken {left : Nat} {reply : Reply} (htaken : reply.IsTaken) :
    Hands (left + 1) [.posted reply] (.ok true)
  | refused {left : Nat} {reply : Reply} (htaken : ¬ reply.IsTaken)
    (hlast : reply.IsBusy → left = 0) : Hands (left + 1) [.posted reply] (.ok false)
  | there {left : Nat} {reply : Reply} (hbusy : reply.IsBusy) (hleft : left ≠ 0) :
    Hands (left + 1) [.posted reply, .checked (.ok true)] (.ok true)
  | stopped {left : Nat} {reply : Reply} {f : Fault} (hbusy : reply.IsBusy) (hleft : left ≠ 0) :
    Hands (left + 1) [.posted reply, .checked (.error f)] (.error f)
  | again {left : Nat} {reply : Reply} {acts : List Act} {x : Except Fault Bool}
    (hbusy : reply.IsBusy) (hrest : Hands left acts x) :
    Hands (left + 1) (.posted reply :: .checked (.ok false) :: .paused :: acts) x

theorem notes_refused (text : String) (cause : Option Fault) (s : Connection σ × Journal) :
    ∃ s', Notes (do WorldM.ofLog (LogM.warn .comments text cause); return false)
      (do WorldM.ofLog (LogM.warn .comments text cause); return false) s (.ok false) [] s' :=
  ⟨_, rfl, fun w => by rw [List.append_nil]; rfl⟩

/-- A busy server is asked whether it has the value after all, and is left alone for a while before
the value is handed over again. -/
theorem notes_again (c : Client σ) (happened : HttpM σ Bool) (number : Nat) {left : Nat}
    {reply : Reply} (hbusy : reply.IsBusy) (hleft : left ≠ 0) {again : HttpM σ Bool}
    {again' : HttpM (σ × List Act) Bool}
    (hagain : ∀ s, ∃ acts x s', Hands left acts x ∧ Notes again again' s x acts s')
    (s : Connection σ × Journal) :
    ∃ acts x s', Hands (left + 1) (.posted reply :: acts) x ∧
      Notes (do if ← happened then return true
                pause c number
                again)
        (do if ← notingCheck happened then return true
            pause c.noting number
            again') s x acts s' := by
  obtain ⟨answer, s₁, hcheck⟩ := notes_check happened s
  match answer with
  | .error f => exact ⟨[_], .error f, s₁, .stopped hbusy hleft, hcheck.bind_error _ _⟩
  | .ok true => exact ⟨[_], .ok true, s₁, .there hbusy hleft, hcheck.bind (notes_pure true s₁)⟩
  | .ok false =>
    obtain ⟨s₂, hpause⟩ := notes_pause c number s₁
    obtain ⟨acts, x, s', hhands, hrest⟩ := hagain s₂
    exact ⟨_ :: _ :: acts, x, s', .again hbusy hhands, hcheck.bind (hpause.bind hrest)⟩

/-- What is done after a value is posted depends on the reply. -/
theorem postFrom_hands (c : Client σ) (r : Request) (what : String) (happened : HttpM σ Bool)
    (number : Nat) {left : Nat} (hleft : left ≠ 0) (s : Connection σ × Journal) :
    ∃ acts x s', Hands left acts x ∧ Notes (postFrom c r what happened number left)
      (postFrom c.noting r what (notingCheck happened) number left) s x acts s' := by
  induction left generalizing number s with
  | zero => exact absurd rfl hleft
  | succ left ih =>
    obtain ⟨reply, s₁, hsend⟩ := notes_send c r s
    -- three branches give up right after the post; they differ in the warning alone
    have hrefused (htaken : ¬ reply.IsTaken) (hlast : reply.IsBusy → left = 0) :
        Hands (left + 1) [.posted reply] (.ok false) := .refused htaken hlast
    rw [postFrom, postFrom]
    cases reply with
    | unreachable =>
      obtain ⟨s₂, hend⟩ := notes_refused ("Failed to create " ++ what) (some .unreachable) s₁
      exact ⟨_, _, _, hrefused id False.elim, hsend.bind hend⟩
    | timedOut =>
      obtain ⟨s₂, hend⟩ := notes_refused ("Failed to create " ++ what) (some .timedOut) s₁
      exact ⟨_, _, _, hrefused id False.elim, hsend.bind hend⟩
    | answer status body =>
      by_cases htaken : isSuccess status = true
      · have htakes : (Reply.answer status body).IsTaken := htaken
        refine ⟨[_], .ok true, s₁, .taken htakes, hsend.bind ?_⟩
        simp only [htaken, if_true]
        exact notes_pure true s₁
      by_cases hagain : (isPassing status && left ≠ 0) = true
      · have hmore := hagain
        rw [Bool.and_eq_true, isPassing_iff, decide_eq_true_iff] at hmore
        obtain ⟨hpassing, hmore⟩ := hmore
        have hbusy : (Reply.answer status body).IsBusy := hpassing
        obtain ⟨acts, x, s', hhands, hrest⟩ := notes_again c happened number hbusy hmore
          (ih (number + 1) hmore) s₁
        refine ⟨_ :: acts, x, s', hhands, hsend.bind ?_⟩
        simp only [htaken, hagain, if_true]
        exact hrest
      · obtain ⟨s₂, hend⟩ := notes_refused (s!"Failed to create {what} ({status}): " ++
          Text.Utf8.decodeLossy body) none s₁
        have hlast : (Reply.answer status body).IsBusy → left = 0 := by
          intro hbusy
          rw [Bool.and_eq_true, isPassing_iff, decide_eq_true_iff, not_and_or, not_not] at hagain
          exact hagain.resolve_left (not_not_intro hbusy)
        refine ⟨[_], .ok false, s₂, hrefused htaken hlast, hsend.bind ?_⟩
        simp only [htaken, hagain, if_false, Bool.false_eq_true]
        exact hend

/-! ### The order of acts -/

variable {left : Nat} {acts : List Act} {x : Except Fault Bool}

theorem countP_again {reply : Reply} : (Act.posted reply :: .checked (.ok false) :: .paused ::
    acts).countP Act.isPost = acts.countP Act.isPost + 1 := by
  simp [List.countP_cons, Act.isPost]

theorem Hands.countP_posts (h : Hands left acts x) :
    1 ≤ acts.countP Act.isPost ∧ acts.countP Act.isPost ≤ left := by
  induction h with
  | again hbusy hrest ih =>
    rw [countP_again]
    omega
  | _ => exact ⟨Nat.le_refl 1, Nat.succ_le_succ (Nat.zero_le _)⟩

/-- The parts of what is done where a value is posted again: one of the first acts stands between
them, or one of those from the next post on. -/
theorem again_eq_append {reply : Reply} {before after : List Act} {act : Act}
    (h : .posted reply :: .checked (.ok false) :: .paused :: acts = before ++ act :: after) :
    (before = [] ∧ act = .posted reply) ∨
    (before = [.posted reply] ∧ act = .checked (.ok false)) ∨
    (before = [.posted reply, .checked (.ok false)] ∧ act = .paused ∧ after = acts) ∨
    ∃ rest, before = .posted reply :: .checked (.ok false) :: .paused :: rest ∧
      acts = rest ++ act :: after := by
  rcases before with _ | ⟨_, _ | ⟨_, _ | ⟨_, rest⟩⟩⟩ <;> simp_all

theorem Reply.IsBusy.not_isTaken {reply : Reply} (h : reply.IsBusy) : ¬ reply.IsTaken := by
  cases reply with
  | answer status body =>
    have hstatus : status = 429 ∨ 500 ≤ status ∧ status < 600 := h
    intro htaken
    have hsuccess := isSuccess_iff.1 htaken
    omega
  | _ => exact id

theorem Hands.head (h : Hands left acts x) : ∃ reply rest, acts = .posted reply :: rest := by
  cases h <;> exact ⟨_, _, rfl⟩

/-- What comes before a post is nothing, or ends with a post that failed for now, a check that
answered no and a pause. -/
theorem Hands.before_post (h : Hands left acts x) {before after : List Act} {reply : Reply}
    (hacts : acts = before ++ .posted reply :: after) : before = [] ∨ ∃ earlier last,
      Reply.IsBusy last ∧ before = earlier ++ [.posted last, .checked (.ok false), .paused] := by
  induction h generalizing before with
  | again hbusy hrest ih =>
    rcases again_eq_append hacts with ⟨rfl, -⟩ | ⟨-, hact⟩ | ⟨-, hact, -⟩ | ⟨rest, rfl, htail⟩
    · exact .inl rfl
    · cases hact
    · cases hact
    · rcases ih htail with rfl | ⟨earlier, last, hlast, rfl⟩
      · exact .inr ⟨[], _, hbusy, rfl⟩
      · exact .inr ⟨_ :: _ :: _ :: earlier, last, hlast, rfl⟩
  | _ => rcases before with _ | ⟨_, _ | ⟨_, before⟩⟩ <;> simp_all

/-- What comes before a check ends with a post that failed for now and is not the last one. -/
theorem Hands.before_check (h : Hands left acts x) {before after : List Act}
    {answer : Except Fault Bool} (hacts : acts = before ++ .checked answer :: after) :
    before.countP Act.isPost < left ∧
      ∃ earlier last, Reply.IsBusy last ∧ before = earlier ++ [.posted last] := by
  induction h generalizing before with
  | again hbusy hrest ih =>
    have hleft := hrest.countP_posts
    rcases again_eq_append hacts with ⟨-, hact⟩ | ⟨rfl, -⟩ | ⟨-, hact, -⟩ | ⟨rest, rfl, htail⟩
    · cases hact
    · refine ⟨?_, [], _, hbusy, rfl⟩
      simp [Act.isPost]
      omega
    · cases hact
    · obtain ⟨hcount, earlier, last, hlast, rfl⟩ := ih htail
      refine ⟨?_, _ :: _ :: _ :: earlier, last, hlast, rfl⟩
      rw [countP_again]
      omega
  | there hbusy hleft | stopped hbusy hleft =>
    rcases before with _ | ⟨_, _ | ⟨_, before⟩⟩
    · cases hacts
    · cases hacts
      exact ⟨Nat.succ_lt_succ (Nat.pos_of_ne_zero hleft), [], _, hbusy, rfl⟩
    · simp at hacts
  | _ => rcases before with _ | ⟨_, before⟩ <;> simp_all

/-- A post comes right after a pause. -/
theorem Hands.after_pause (h : Hands left acts x) {before after : List Act}
    (hacts : acts = before ++ .paused :: after) : ∃ reply rest, after = .posted reply :: rest := by
  induction h generalizing before with
  | again hbusy hrest ih =>
    rcases again_eq_append hacts with ⟨-, hact⟩ | ⟨-, hact⟩ | ⟨-, -, rfl⟩ | ⟨rest, -, htail⟩
    · cases hact
    · cases hact
    · exact hrest.head
    · exact ih htail
  | _ => rcases before with _ | ⟨_, _ | ⟨_, before⟩⟩ <;> simp_all

/-- After a post that failed for now and is not the last one there comes a check. -/
theorem Hands.after_post (h : Hands left acts x) {before after : List Act} {reply : Reply}
    (hacts : acts = before ++ .posted reply :: after) (hbusy : reply.IsBusy)
    (hcount : before.countP Act.isPost + 1 < left) :
    ∃ answer rest, after = .checked answer :: rest := by
  induction h generalizing before with
  | taken htaken =>
    rcases before with _ | ⟨_, before⟩
    · cases hacts
      exact absurd htaken hbusy.not_isTaken
    · simp at hacts
  | refused htaken hlast =>
    rcases before with _ | ⟨_, before⟩
    · cases hacts
      rw [hlast hbusy] at hcount
      exact absurd hcount (by simp)
    · simp at hacts
  | there | stopped =>
    rcases before with _ | ⟨_, _ | ⟨_, before⟩⟩
    · cases hacts
      exact ⟨_, [], rfl⟩
    · cases hacts
    · simp at hacts
  | again _ hrest ih =>
    rcases again_eq_append hacts with ⟨rfl, hact⟩ | ⟨-, hact⟩ | ⟨-, hact, -⟩ | ⟨rest, rfl, htail⟩
    · cases hacts
      exact ⟨_, _, rfl⟩
    · cases hact
    · cases hact
    · rw [countP_again] at hcount
      exact ih htail (by omega)

/-- After a check that answered no there comes a pause. -/
theorem Hands.after_no (h : Hands left acts x) {before after : List Act}
    (hacts : acts = before ++ .checked (.ok false) :: after) : ∃ rest, after = .paused :: rest := by
  induction h generalizing before with
  | again hbusy hrest ih =>
    rcases again_eq_append hacts with ⟨-, hact⟩ | ⟨rfl, -⟩ | ⟨-, hact, -⟩ | ⟨rest, -, htail⟩
    · cases hact
    · cases hacts
      exact ⟨_, rfl⟩
    · cases hact
    · exact ih htail
  | _ => rcases before with _ | ⟨_, _ | ⟨_, before⟩⟩ <;> simp_all

theorem Hands.eq_ok_true_iff (h : Hands left acts x) : x = .ok true ↔
    (∃ reply, Reply.IsTaken reply ∧ .posted reply ∈ acts) ∨ .checked (.ok true) ∈ acts := by
  induction h with
  | taken htaken => exact iff_of_true rfl (.inl ⟨_, htaken, List.mem_cons_self⟩)
  | refused htaken hlast => simp [htaken]
  | there hbusy hleft => simp
  | stopped hbusy hleft => simp [hbusy.not_isTaken]
  | again hbusy hrest ih =>
    rw [ih]
    simp [and_or_left, exists_or, hbusy.not_isTaken]

theorem Hands.eq_error_iff (h : Hands left acts x) {f : Fault} :
    x = .error f ↔ .checked (.error f) ∈ acts := by
  induction h with
  | again hbusy hrest ih => simpa using ih
  | _ => simp [eq_comm]

/-- How a value is handed over: what is done in which order, and how it ends. -/
structure IsHandover (most : Nat) (acts : List Act) (x : Except Fault Bool) : Prop where
  posts : 1 ≤ acts.countP Act.isPost ∧ acts.countP Act.isPost ≤ most
  before_post : ∀ before reply after, acts = before ++ .posted reply :: after → before = [] ∨
    ∃ earlier last, Reply.IsBusy last ∧
      before = earlier ++ [.posted last, .checked (.ok false), .paused]
  before_check : ∀ before answer after, acts = before ++ .checked answer :: after →
    before.countP Act.isPost < most ∧
      ∃ earlier last, Reply.IsBusy last ∧ before = earlier ++ [.posted last]
  after_post : ∀ before reply after, acts = before ++ .posted reply :: after → reply.IsBusy →
    before.countP Act.isPost + 1 < most → ∃ answer rest, after = .checked answer :: rest
  after_no : ∀ before after, acts = before ++ .checked (.ok false) :: after →
    ∃ rest, after = .paused :: rest
  after_pause : ∀ before after, acts = before ++ .paused :: after →
    ∃ reply rest, after = .posted reply :: rest
  taken : x = .ok true ↔
    (∃ reply, Reply.IsTaken reply ∧ .posted reply ∈ acts) ∨ .checked (.ok true) ∈ acts
  stopped : ∀ f, x = .error f ↔ .checked (.error f) ∈ acts

/-- What is done while a value is handed over, in order. -/
def handoverActs (c : Client σ) (r : Request) (what : String) (happened : HttpM σ Bool)
    (s : Connection σ × Journal) : List Act :=
  (post c.noting r what (notingCheck happened) (s.1.beside [], s.2)).2.1.server.2

/-- Whatever a server replies and whatever the checks answer, a value is posted once, twice or three
times. It is posted again only after a reply that fails for now, one check, which answered no, and
one pause. There is no check but right after such a reply, and none after the third post. The value
is known to have been taken if and only if some reply or some check said so; that a check stops is
the only cause for which there is no answer. -/
theorem post_isHandover (c : Client σ) (r : Request) (what : String) (happened : HttpM σ Bool)
    (s : Connection σ × Journal) :
    IsHandover 3 (handoverActs c r what happened s) (post c r what happened s).1 ∧
      post c.noting r what (notingCheck happened) (s.1.beside [], s.2) =
        ((post c r what happened s).1, ((post c r what happened s).2.1.beside
          (handoverActs c r what happened s), (post c r what happened s).2.2)) := by
  obtain ⟨acts, x, s', hhands, hnotes⟩ := postFrom_hands c r what happened 0
    (by decide : 3 ≠ 0) s
  have hrun : post c r what happened s = (x, s') := hnotes.run
  have hnoted : post c.noting r what (notingCheck happened) (s.1.beside [], s.2) =
      (x, (s'.1.beside acts, s'.2)) := hnotes.noted []
  have hacts : handoverActs c r what happened s = acts := by
    rw [handoverActs, hnoted]
    rfl
  rw [hacts, hnoted, hrun]
  exact ⟨⟨hhands.countP_posts, fun _ _ _ => hhands.before_post, fun _ _ _ => hhands.before_check,
    fun _ _ _ => hhands.after_post, fun _ _ => hhands.after_no, fun _ _ => hhands.after_pause,
    hhands.eq_ok_true_iff, fun _ => hhands.eq_error_iff⟩, rfl⟩

/-- Replies that are known beforehand, and answers to checks. -/
def scriptedPost : Client (List Reply × List Bool) where
  respond _ s := (s.1.headD .unreachable, (s.1.tail, s.2))
  share s := (1, s)

def scriptedCheck : HttpM (List Reply × List Bool) Bool :=
  WorldM.use fun k => (k.server.2.headD true, { k with server := (k.server.1, k.server.2.tail) })

example : handoverActs scriptedPost ⟨.post, "", none, .null, none⟩ "" scriptedCheck
    (⟨([.answer 503 ⟨#[]⟩, .answer 429 ⟨#[]⟩, .answer 500 ⟨#[]⟩], [false, false, true]), []⟩, {}) =
    [.posted (.answer 503 ⟨#[]⟩), .checked (.ok false), .paused,
      .posted (.answer 429 ⟨#[]⟩), .checked (.ok false), .paused,
      .posted (.answer 500 ⟨#[]⟩)] := rfl

end RuleReview.Http
