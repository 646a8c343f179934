import RuleReview.Proofs.Review.Isolation

/-! What a review asks a sink to take. The places of what was found on lines of the diff are tried
one after the other while fewer comments than the limit were taken; where nothing was found on
such a line, one comment on the whole is tried, whose key is made of the places and messages of the
findings in any order. Comments whose key is there are not tried. -/

namespace RuleReview.Review

section observed

/-! ### Observed sinks -/

/-- A comment that a sink is asked to take. -/
inductive Attempt
  | place (c : Comment)
  | whole (body key : String)
  deriving DecidableEq

/-- What a sink was asked to take and whether it did, in order. -/
abbrev Attempts := List (Attempt × Bool)

/-- A step that asks a sink to take a comment, with the attempt written down. -/
def noting {τ : Type} (a : Attempt) (m : WorldM τ Fault Bool) :
    WorldM (τ × Attempts) Fault Bool := do
  let taken ← WorldM.focus Prod.fst (fun t w => (t, w.2)) m
  WorldM.use fun w => (taken, (w.1, w.2 ++ [(a, taken)]))

/-- A sink beside which the attempts are written down. -/
def Sink.observed {τ : Type} (sink : Sink τ) : Sink (τ × Attempts) where
  existing := WorldM.focus Prod.fst (fun t w => (t, w.2)) sink.existing
  post c := noting (.place c) (sink.post c)
  postSummary body key := noting (.whole body key) (sink.postSummary body key)

/-- The comments that a review asks a sink to take. -/
def Job.attempts {τ : Type} (b : Job) (sink : Sink τ) (t : τ) : Attempts :=
  (b.runOn sink.observed (t, [])).2.2

/-- A step with a sink ends with an answer, and it ends in the same way with the observed one,
beside which some attempts are written down. -/
structure Ends {τ α : Type} (m : WorldM τ Fault α) (m' : WorldM (τ × Attempts) Fault α)
    (s : τ × Journal) (a : α) (tried : Attempts) (s' : τ × Journal) : Prop where
  run : m s = (.ok a, s')
  observed : ∀ w, m' ((s.1, w), s.2) = (.ok a, ((s'.1, w ++ tried), s'.2))

variable {τ α β : Type} {sink : Sink τ} {s s' s'' : τ × Journal}

/-- The keys that a sink tells are those of what it holds. -/
def Sink.Tells (sink : Sink τ) (keys : τ → List String) : Prop :=
  ∀ t j, (sink.existing (t, j)).1 = .ok (keys t)

/-- A sink holds the comments on the whole that it took. -/
def Sink.KeepsSummaries (sink : Sink τ) (keys : τ → List String) : Prop :=
  ∀ body key s s', sink.postSummary body key s = (.ok true, s') → key ∈ keys s'.1

theorem ends_pure (a : α) (s : τ × Journal) : Ends (pure a) (pure a) s a [] s :=
  ⟨rfl, fun w => by rw [List.append_nil]; rfl⟩

theorem ends_info (text : String) (s : τ × Journal) :
    Ends (WorldM.ofLog (LogM.info .review text)) (WorldM.ofLog (LogM.info .review text)) s () []
      (s.1, s.2.log ⟨.info, .review, text, none⟩) :=
  ⟨rfl, fun w => by rw [List.append_nil]; rfl⟩

/-- The attempts of two steps are those of the first one and those of the second one. -/
theorem Ends.bind {m : WorldM τ Fault α} {m' : WorldM (τ × Attempts) Fault α}
    {f : α → WorldM τ Fault β} {f' : α → WorldM (τ × Attempts) Fault β} {a : α} {b : β}
    {tried tried' : Attempts} (hm : Ends m m' s a tried s')
    (hf : Ends (f a) (f' a) s' b tried' s'') :
    Ends (m >>= f) (m' >>= f') s b (tried ++ tried') s'' where
  run := by
    rw [Stop.bind_apply, hm.run]
    exact hf.run
  observed w := by
    rw [Stop.bind_apply, hm.observed, ← List.append_assoc]
    exact hf.observed (w ++ tried)

theorem ends_existing {keys : List String} (h : (sink.existing s).1 = .ok keys) :
    Ends sink.existing sink.observed.existing s keys [] (sink.existing s).2 where
  run := Prod.ext h rfl
  observed w := by
    rw [List.append_nil]
    exact Prod.ext h rfl

theorem ends_noting (a : Attempt) {m : WorldM τ Fault Bool} {taken : Bool}
    (h : m s = (.ok taken, s')) : Ends m (noting a m) s taken [(a, taken)] s' where
  run := h
  observed w := by
    simp only [noting, Stop.bind_apply, WorldM.focus, h]
    rfl

theorem Sink.Answers.ends_post (hsink : sink.Answers) (c : Comment) (s : τ × Journal) :
    ∃ taken s', Ends (sink.post c) (sink.observed.post c) s taken [(.place c, taken)] s' := by
  obtain ⟨taken, htaken⟩ := hsink.post c s
  exact ⟨taken, _, ends_noting _ (Prod.ext htaken rfl)⟩

theorem Sink.Answers.ends_postSummary (hsink : sink.Answers) (body key : String)
    (s : τ × Journal) : ∃ taken s', Ends (sink.postSummary body key)
      (sink.observed.postSummary body key) s taken [(.whole body key, taken)] s' := by
  obtain ⟨taken, htaken⟩ := hsink.postSummary body key s
  exact ⟨taken, _, ends_noting _ (Prod.ext htaken rfl)⟩

/-! ### Comments on places -/

/-- Answers to attempts of which there are `total` at most, made while fewer than `limit` of those
before succeeded: the attempts end with the last one or with the one that reaches the limit. -/
structure IsBounded (limit : Int) (total : Nat) (answers : List Bool) : Prop where
  length_le : answers.length ≤ total
  count_lt : ∀ k < answers.length, ((answers.take k).count true : Int) < limit
  ended : answers.length = total ∨ limit ≤ answers.count true

theorem isBounded_nil {limit : Int} {total : Nat} (h : total = 0 ∨ limit ≤ 0) :
    IsBounded limit total [] :=
  ⟨Nat.zero_le _, nofun, h.imp_left Eq.symm⟩

theorem count_cons_true (taken : Bool) (answers : List Bool) :
    (taken :: answers).count true = taken.toNat + answers.count true := by
  cases taken <;> simp [Nat.add_comm]

theorem IsBounded.cons {limit : Int} {total : Nat} {answers : List Bool} {taken : Bool}
    (hlimit : 0 < limit) (h : IsBounded (limit - taken.toNat) total answers) :
    IsBounded limit (total + 1) (taken :: answers) := by
  refine ⟨Nat.succ_le_succ h.length_le, fun k hk => ?_, ?_⟩
  · cases k with
    | zero => simpa using hlimit
    | succ k =>
      have hbefore := h.count_lt k (Nat.lt_of_succ_lt_succ hk)
      rw [List.take_succ_cons, count_cons_true]
      push_cast
      omega
  · have hended := h.ended
    rw [count_cons_true, List.length_cons]
    push_cast
    omega

theorem IsBounded.count_le {limit : Int} {total : Nat} {answers : List Bool}
    (h : IsBounded limit total answers) (hlimit : 0 ≤ limit) :
    (answers.count true : Int) ≤ limit := by
  rcases List.eq_nil_or_concat answers with rfl | ⟨before, last, rfl⟩
  · simpa using hlimit
  · have hbefore := h.count_lt before.length (by simp)
    rw [List.concat_eq_append, List.take_left] at hbefore
    rw [List.concat_eq_append, List.count_append]
    cases last <;> simp <;> omega

/-- Attempts at the comments of groups, one after the other, with the answers that came. -/
def attemptsAt (gs : List Group) (answers : List Bool) : Attempts :=
  (gs.map fun g => .place g.comment).zip answers

theorem postEach_ends (hsink : sink.Answers) (keys : List String) (limit : Int) (posted : Nat)
    (gs : List Group) (s : τ × Journal) :
    ∃ answers s', IsBounded (limit - posted) (unposted keys gs).length answers ∧
      Ends (postEach sink keys limit posted gs) (postEach sink.observed keys limit posted gs) s
        (posted + answers.count true) (attemptsAt (unposted keys gs) answers) s' := by
  induction gs generalizing posted s with
  | nil => exact ⟨[], s, isBounded_nil (.inl rfl), ends_pure posted s⟩
  | cons g gs ih =>
    by_cases hlimit : limit ≤ posted
    · refine ⟨[], (s.1, s.2.log ⟨.info, .review, s!"comment limit ({limit}) reached", none⟩),
        isBounded_nil (.inr (by omega)), ?_⟩
      rw [postEach, postEach, if_pos hlimit, if_pos hlimit, attemptsAt, List.zip_nil_right]
      exact (ends_info _ s).bind (ends_pure posted _)
    · by_cases hkey : g.comment.key ∈ keys
      · have hskip : unposted keys (g :: gs) = unposted keys gs :=
          List.filter_cons_of_neg (by simp [hkey])
        simp only [postEach, hlimit, if_false, List.contains_iff_mem, hkey, if_true, hskip]
        exact ih posted s
      · have hnext : unposted keys (g :: gs) = g :: unposted keys gs :=
          List.filter_cons_of_pos (by simp [hkey])
        obtain ⟨taken, s1, htaken⟩ := hsink.ends_post g.comment s
        obtain ⟨answers, s', hbounded, hrest⟩ := ih (posted + taken.toNat) s1
        refine ⟨taken :: answers, s', ?_, ?_⟩
        · rw [Int.natCast_add, ← Int.sub_sub] at hbounded
          rw [hnext]
          exact hbounded.cons (by omega)
        · rw [Nat.add_assoc, ← count_cons_true] at hrest
          rw [hnext]
          simp only [postEach, hlimit, if_false, List.contains_iff_mem, hkey]
          exact htaken.bind hrest

theorem postPlaces_ends_nil (sink : Sink τ) (limit : Int) (s : τ × Journal) :
    Ends (postPlaces sink limit []) (postPlaces sink.observed limit []) s 0 [] s := by
  have hgroups : groups [] = [] := List.mergeSort_nil
  simp only [postPlaces, hgroups, List.isEmpty_nil, if_true]
  exact ends_pure 0 s

theorem postPlaces_ends (hsink : sink.Answers) {keys : List String} {fs : List Finding}
    (hkeys : (sink.existing s).1 = .ok keys) (hgroups : groups fs ≠ []) (limit : Int) :
    ∃ answers s', IsBounded limit (unposted keys (groups fs)).length answers ∧
      Ends (postPlaces sink limit fs) (postPlaces sink.observed limit fs) s
        (answers.count true) (attemptsAt (unposted keys (groups fs)) answers) s' := by
  obtain ⟨answers, s1, hbounded, hends⟩ :=
    postEach_ends hsink keys limit 0 (groups fs) (sink.existing s).2
  rw [Int.natCast_zero, Int.sub_zero] at hbounded
  rw [Nat.zero_add] at hends
  have hsome : ¬ (groups fs).isEmpty = true := by simpa using hgroups
  simp only [postPlaces, hsome]
  -- the number of comments is told in the journal unless it is zero
  by_cases hnone : answers.count true = 0
  · refine ⟨answers, s1, hbounded, ?_⟩
    rw [← List.append_nil (attemptsAt _ _)]
    refine (ends_existing hkeys).bind (hends.bind ?_)
    simp only [hnone]
    exact ends_pure 0 s1
  · refine ⟨answers, (s1.1, s1.2.log ⟨.info, .review,
      s!"Posted {answers.count true} CodeSentry review comment(s).", none⟩), hbounded, ?_⟩
    rw [← List.append_nil (attemptsAt _ _)]
    refine (ends_existing hkeys).bind (hends.bind ?_)
    simp only [ne_eq, hnone, not_false_eq_true, if_true]
    exact (ends_info _ s1).bind (ends_pure _ _)

/-! ### Comments on the whole -/

/-- The attempt at a comment on all findings, with the answer that came. -/
def attemptAtWhole (fs : List Finding) (taken : Bool) : Attempt × Bool :=
  let key := summaryKey (fingerprint fs)
  (.whole (summaryBody (fs.map (·.placed)) (Marker.ofSummary key)) key, taken)

theorem postWhole_ends_of_mem {keys : List String} {fs : List Finding}
    (hkeys : (sink.existing s).1 = .ok keys) (hkey : summaryKey (fingerprint fs) ∈ keys) :
    Ends (postWhole sink fs) (postWhole sink.observed fs) s false [] (sink.existing s).2 := by
  simp only [postWhole]
  refine (ends_existing hkeys).bind ?_
  simp only [List.contains_iff_mem, hkey, if_true]
  exact ends_pure false _

theorem postWhole_ends_of_notMem (hsink : sink.Answers) {keys : List String} {fs : List Finding}
    (hkeys : (sink.existing s).1 = .ok keys) (hkey : summaryKey (fingerprint fs) ∉ keys) :
    ∃ taken s', Ends (postWhole sink fs) (postWhole sink.observed fs) s taken
        [attemptAtWhole fs taken] s' ∧
      ∀ held, sink.KeepsSummaries held → taken = true → summaryKey (fingerprint fs) ∈ held s'.1 := by
  simp only [postWhole]
  obtain ⟨taken, s1, htaken⟩ := hsink.ends_postSummary (summaryBody (fs.map (·.placed))
    (Marker.ofSummary (summaryKey (fingerprint fs)))) (summaryKey (fingerprint fs))
    (sink.existing s).2
  cases taken with
  | false =>
    refine ⟨false, s1, (ends_existing hkeys).bind ?_, fun _ _ h => absurd h (by decide)⟩
    simp only [List.contains_iff_mem, hkey]
    exact htaken.bind (ends_pure false s1)
  | true =>
    refine ⟨true, (s1.1, s1.2.log ⟨.info, .review,
      "No finding maps to a diff line; posted a summary comment.", none⟩),
      (ends_existing hkeys).bind ?_, fun held hheld _ => (hheld _ _ _ s1 htaken.run :)⟩
    simp only [List.contains_iff_mem, hkey]
    exact htaken.bind ((ends_info _ s1).bind (ends_pure true _))

/-! ### Reviews -/

theorem groups_ne_nil {fs : List Finding} (h : mapped fs ≠ []) : groups (mapped fs) ≠ [] := by
  obtain ⟨f, hf⟩ := List.exists_mem_of_ne_nil _ h
  obtain ⟨n, hn⟩ := Option.isSome_iff_exists.1 (List.mem_filter.1 hf).2
  obtain ⟨ps, hps, hgroups⟩ := exists_isListing (mapped fs)
  have hplace : (f.path, n) ∈ ps := (hps.mem _).2 ⟨f, hf, by simp [Finding.place?, hn]⟩
  rw [hgroups]
  exact List.ne_nil_of_mem (List.mem_map_of_mem hplace)

section Publish

variable {o : Outcome} {keys : List String} (hsink : sink.Answers)
  (hkeys : (sink.existing s).1 = .ok keys)
include hsink hkeys

theorem publish_ends_of_mapped (hmapped : mapped o.findings ≠ []) (limit : Int) :
    let pending := unposted keys (groups (mapped o.findings))
    ∃ answers s', IsBounded limit pending.length answers ∧
      Ends (publish sink limit o) (publish sink.observed limit o) s
        { o with commentsPosted := answers.count true } (attemptsAt pending answers) s' := by
  obtain ⟨answers, s', hbounded, hends⟩ :=
    postPlaces_ends hsink hkeys (groups_ne_nil hmapped) limit
  have hsome : (mapped o.findings).isEmpty = false := List.isEmpty_eq_false_iff.2 hmapped
  refine ⟨answers, s', hbounded, ?_⟩
  rw [← List.append_nil (attemptsAt _ _)]
  simp only [publish, hsome, Bool.and_false]
  exact hends.bind (ends_pure _ s')

theorem publish_ends_of_not_mapped (hmapped : mapped o.findings = []) (limit : Int) :
    ∃ o' tried s', Ends (publish sink limit o) (publish sink.observed limit o) s o' tried s' ∧
      (tried = [] ∧ (o.findings = [] ∨ summaryKey (fingerprint o.findings) ∈ keys) ∨
        o.findings ≠ [] ∧ summaryKey (fingerprint o.findings) ∉ keys ∧
        ∃ taken, tried = [attemptAtWhole o.findings taken] ∧ ∀ held, sink.KeepsSummaries held →
          taken = true → summaryKey (fingerprint o.findings) ∈ held s'.1) := by
  by_cases hfound : o.findings = []
  · have hnot : ¬ (!o.findings.isEmpty && (mapped o.findings).isEmpty) = true := by simp [hfound]
    refine ⟨{ o with commentsPosted := 0 }, [], s, ?_, .inl ⟨rfl, .inl hfound⟩⟩
    rw [publish, publish, if_neg hnot, if_neg hnot, hmapped]
    exact (postPlaces_ends_nil sink limit s).bind (ends_pure _ s)
  · have hsome : o.findings.isEmpty = false := List.isEmpty_eq_false_iff.2 hfound
    simp only [publish, hmapped, hsome, List.isEmpty_nil, Bool.not_false, Bool.true_and, if_true]
    by_cases hkey : summaryKey (fingerprint o.findings) ∈ keys
    · exact ⟨_, [], _, (postWhole_ends_of_mem hkeys hkey).bind (ends_pure _ _),
        .inl ⟨rfl, .inr hkey⟩⟩
    · obtain ⟨taken, s', hends, hkeeps⟩ := postWhole_ends_of_notMem hsink hkeys hkey
      exact ⟨_, _, s', hends.bind (ends_pure _ s'), .inr ⟨hfound, hkey, taken, rfl, hkeeps⟩⟩

end Publish

namespace Job

variable {b : Job} {keys : τ → List String}

/-- What publishing ends with is what a review ends with. -/
theorem runOn_of_ends {o o' : Outcome} {j : Journal} {tried : Attempts}
    (hrun : ∀ {τ : Type} (sink : Sink τ) (t : τ), b.runOn sink t =
      ((publish sink b.maxComments o (t, j)).1.mapError .fault,
        (publish sink b.maxComments o (t, j)).2.1))
    {t : τ} (hends : Ends (publish sink b.maxComments o) (publish sink.observed b.maxComments o)
      (t, j) o' tried s') :
    b.runOn sink t = (.ok o', s'.1) ∧ b.runOn sink.observed (t, []) = (.ok o', (s'.1, tried)) := by
  rw [hrun, hrun, hends.run, hends.observed]
  exact ⟨rfl, rfl⟩

/-- Observing a sink that answers does not change what a review does. -/
theorem runOn_observed (hsink : sink.Answers) (b : Job) (t : τ) :
    b.runOn sink.observed (t, []) =
      ((b.runOn sink t).1, ((b.runOn sink t).2, b.attempts sink t)) := by
  obtain ⟨e, -, hrun⟩ | ⟨o, j, -, hrun⟩ := b.runOn_cases
  · rw [attempts, hrun, hrun]
  · obtain ⟨keys, hkeys⟩ := hsink.existing (t, j)
    have hends : ∃ o' tried s', Ends (publish sink b.maxComments o)
        (publish sink.observed b.maxComments o) (t, j) o' tried s' := by
      by_cases hmapped : mapped o.findings = []
      · obtain ⟨o', tried, s', hends, -⟩ :=
          publish_ends_of_not_mapped hsink hkeys hmapped b.maxComments
        exact ⟨o', tried, s', hends⟩
      · obtain ⟨answers, s', -, hends⟩ := publish_ends_of_mapped hsink hkeys hmapped b.maxComments
        exact ⟨_, _, s', hends⟩
    obtain ⟨o', tried, s', hends⟩ := hends
    obtain ⟨hplain, hobserved⟩ := runOn_of_ends hrun hends
    rw [attempts, hplain, hobserved]

/-- With findings on lines of the diff, a review tries the groups that are not there. -/
theorem attempts_of_mapped (hsink : sink.Answers) (htells : sink.Tells keys)
    (hmapped : mapped b.findings ≠ []) (t : τ) :
    let pending := unposted (keys t) (groups (mapped b.findings))
    ∃ answers o, IsBounded b.maxComments pending.length answers ∧
      (b.runOn sink t).1 = .ok o ∧ b.attempts sink t = attemptsAt pending answers ∧
      o.commentsPosted = answers.count true := by
  obtain ⟨e, hnone, -⟩ | ⟨o, j, hfindings, hrun⟩ := b.runOn_cases
  · exact absurd (by rw [hnone]; rfl) hmapped
  · rw [hfindings] at hmapped ⊢
    obtain ⟨answers, s', hbounded, hends⟩ :=
      publish_ends_of_mapped hsink (htells t j) hmapped b.maxComments
    obtain ⟨hplain, hobserved⟩ := runOn_of_ends hrun hends
    refine ⟨answers, _, hbounded, congrArg Prod.fst hplain, ?_, rfl⟩
    rw [attempts, hobserved]

end Job

/-- Whatever a sink answers, a review with findings on lines of the diff tries the comments on
their places in ascending order, without those whose key is there, until none is left or as many
as the limit allows were taken. The comment on a place tells what is found there, which is all on
one line. Issues are not compared to bring the places into their order. -/
theorem attempts_at_places {b : Job} {keys : τ → List String} (hsink : sink.Answers)
    (htells : sink.Tells keys) (hmapped : mapped b.findings ≠ []) (hlimit : 0 ≤ b.maxComments)
    (t : τ) :
    ∃ ps, IsListing (mapped b.findings) ps ∧
      (∀ p ∈ ps, ∃ line,
        (∀ f ∈ mapped b.findings, f.place? = some p → f.issue.line = line) ∧
        b.commentAt p = ⟨p.1, p.2, commentBody (issuesAt (mapped b.findings) p)
          (Marker.ofComment (commentKey p.1 line) p.1 line), commentKey p.1 line⟩) ∧
      (∃ answers o, ∃ pending : List (String × Nat),
        pending = (ps.filter fun p => (b.commentAt p).key ∉ keys t) ∧
        IsBounded b.maxComments pending.length answers ∧
        b.attempts sink t = (pending.map fun p => .place (b.commentAt p)).zip answers ∧
        b.runOn sink.observed (t, []) = (.ok o, ((b.runOn sink t).2, b.attempts sink t)) ∧
        (b.runOn sink t).1 = .ok o ∧ o.commentsPosted = answers.count true ∧
        (o.commentsPosted : Int) ≤ b.maxComments) ∧
      ∀ compare : List Issue → List Issue → Bool,
        ((mapped b.findings).foldl addFinding []).mergeSort (fun g h =>
          if g.place = h.place then compare g.issues h.issues else g.mayPrecede h) =
            ps.map (groupAt (mapped b.findings)) := by
  obtain ⟨ps, hps, hgroups⟩ := exists_isListing (mapped b.findings)
  refine ⟨ps, hps, fun p hp => ?_, ?_, fun compare => ?_⟩
  · obtain ⟨f, hf, hplace⟩ := (hps.mem p).1 hp
    exact ⟨f.issue.line, fun g hg hgplace => Job.line_eq_of_place? hg hf hgplace hplace,
      Job.comment_groupAt hf hplace⟩
  · obtain ⟨answers, o, hbounded, hrun, hattempts, hposted⟩ :=
      Job.attempts_of_mapped hsink htells hmapped t
    have hpending : unposted (keys t) (groups (mapped b.findings)) =
        (ps.filter fun p => (b.commentAt p).key ∉ keys t).map (groupAt (mapped b.findings)) := by
      rw [hgroups, unposted, List.filter_map]
      rfl
    rw [hpending, List.length_map] at hbounded
    rw [hpending, attemptsAt, List.map_map] at hattempts
    have hobserved := b.runOn_observed hsink t
    rw [hrun] at hobserved
    exact ⟨answers, o, _, rfl, hbounded, hattempts, hobserved, hrun, hposted,
      hposted ▸ hbounded.count_le hlimit⟩
  · rw [mergeSort_foldl_addFinding, hgroups]

theorem tells_recording : Sink.recording.Tells Recorded.keys := fun _ _ => rfl

theorem mapped_smallJob : ∃ f g, mapped smallJob.findings = [f, g] ∧
    (f.place? = some ("a.py", 1) ∧ f.issue.line = 1) ∧
    g.place? = some ("a.py", 2) ∧ g.issue.line = 2 := by
  obtain ⟨f, fs, hfs, hf, hrest⟩ := List.map_eq_cons_iff.1 places_smallJob
  obtain ⟨g, gs, rfl, hg, hnone⟩ := List.map_eq_cons_iff.1 hrest
  obtain rfl := List.map_eq_nil_iff.1 hnone
  simp only [Prod.mk.injEq] at hf hg
  refine ⟨f, g, hfs, ?_, ?_⟩
  · simp [Finding.place?, hf]
  · simp [Finding.place?, hg]

/-- The first of two lines was commented on before, so the comment on the second one is tried. -/
theorem attempts_at_places_smallJob :
    Sink.recording.Answers ∧ Sink.recording.Tells Recorded.keys ∧
      mapped smallJob.findings ≠ [] ∧ 0 ≤ smallJob.maxComments ∧
      ∃ taken o, (smallJob.runOn .recording { keys := [commentKey "a.py" 1] }).1 = .ok o ∧
        smallJob.attempts .recording { keys := [commentKey "a.py" 1] } =
          [(.place (smallJob.commentAt ("a.py", 2)), taken)] ∧
        o.commentsPosted = taken.toNat := by
  obtain ⟨f, g, hfound, ⟨hf, hfline⟩, hg, hgline⟩ := mapped_smallJob
  have hfmem : f ∈ mapped smallJob.findings := by simp [hfound]
  have hgmem : g ∈ mapped smallJob.findings := by simp [hfound]
  have hmapped : mapped smallJob.findings ≠ [] := List.ne_nil_of_mem hfmem
  obtain ⟨ps, hps, -, ⟨answers, o, pending, hpending, hbounded, hattempts, -, hrun, hposted, -⟩, -⟩ :=
    attempts_at_places answers_recording tells_recording hmapped (by decide)
      { keys := [commentKey "a.py" 1] }
  have hlisting : IsListing (mapped smallJob.findings) [("a.py", 1), ("a.py", 2)] := by
    refine ⟨by simp [Precedes], fun p => ?_⟩
    simp [hfound, hf, hg, eq_comm]
  have hkey : (smallJob.commentAt ("a.py", 1)).key = commentKey "a.py" 1 := by
    rw [Job.commentAt, Job.comment_groupAt hfmem hf, hfline]
    rfl
  have hother : (smallJob.commentAt ("a.py", 2)).key = commentKey "a.py" 2 := by
    rw [Job.commentAt, Job.comment_groupAt hgmem hg, hgline]
    rfl
  have hapart : commentKey "a.py" 2 ≠ commentKey "a.py" 1 := by decide +kernel
  have hsecond : pending = [("a.py", 2)] := by
    rw [hpending, hps.eq hlisting]
    simp [hkey, hother, hapart]
  subst hsecond
  -- one attempt is made, as the limit allows for it
  obtain ⟨taken, rfl⟩ : ∃ taken, answers = [taken] := by
    have hlimit : smallJob.maxComments = 1 := rfl
    have hended := hbounded.ended
    have hle := hbounded.length_le
    have hcount : answers.count true ≤ answers.length := List.count_le_length
    rw [hlimit] at hended
    simp only [List.length_singleton] at hended hle
    exact List.length_eq_one_iff.1 (by omega)
  refine ⟨answers_recording, tells_recording, hmapped, by decide, taken, o, hrun, hattempts, ?_⟩
  rw [hposted, count_cons_true]
  rfl

end observed

section whole

/-! ### The comment on the whole -/

/-- What the key of a comment on the whole tells of a finding. -/
def Finding.told (f : Finding) : String × Nat × String := (f.path, f.issue.line, f.issue.message)

variable {τ : Type} {sink : Sink τ} {keys : τ → List String}

end whole

end RuleReview.Review
