import RuleReview.Proofs.Review.Groups
import RuleReview.Proofs.Stop
import RuleReview.Review.Run

/-! Reviews that are made one after the other and keep their comments in one place. The groups whose
keys are not there are kept one after the other, up to a limit, so no comment is kept twice, and a
review that is made again goes on where it ended. -/

namespace RuleReview.Review

/-! ### Comments on places -/

/-- Keeps the comments of groups. -/
def Recorded.addEach (r : Recorded) (gs : List Group) : Recorded :=
  gs.foldl (fun r g => r.add g.comment) r

theorem Recorded.mem_keys_addKey {r : Recorded} {k key : String} :
    key ∈ (r.addKey k).keys ↔ key ∈ r.keys ∨ key = k := by
  by_cases h : k ∈ r.keys
  · simp only [addKey, if_pos h]
    grind
  · simp [addKey, h]

theorem Recorded.mem_keys_addEach {r : Recorded} {gs : List Group} {key : String} :
    key ∈ (r.addEach gs).keys ↔ key ∈ r.keys ∨ key ∈ gs.map (·.comment.key) := by
  induction gs generalizing r with
  | nil => simp [addEach]
  | cons g gs ih =>
    rw [addEach, List.foldl_cons, ← addEach, ih, List.map_cons, List.mem_cons, ← or_assoc]
    exact or_congr_left mem_keys_addKey

theorem Recorded.comments_addEach (r : Recorded) (gs : List Group) :
    (r.addEach gs).comments = r.comments ++ gs.map Group.comment := by
  induction gs generalizing r with
  | nil => simp [addEach]
  | cons g gs ih =>
    rw [addEach, List.foldl_cons, ← addEach, ih]
    simp [add, addKey]

theorem Recorded.summaries_addEach (r : Recorded) (gs : List Group) :
    (r.addEach gs).summaries = r.summaries := by
  induction gs generalizing r with
  | nil => rfl
  | cons g gs ih =>
    rw [addEach, List.foldl_cons, ← addEach, ih]
    rfl

def unposted (keys : List String) (gs : List Group) : List Group :=
  gs.filter fun g => g.comment.key ∉ keys

theorem postEach_recording (keys : List String) (limit : Int) (posted : Nat) (gs : List Group)
    (r : Recorded) (j : Journal) :
    ∃ j', postEach .recording keys limit posted gs (r, j) =
      (.ok (posted + ((unposted keys gs).take (limit - posted).toNat).length),
        (r.addEach ((unposted keys gs).take (limit - posted).toNat), j')) := by
  induction gs generalizing posted r j with
  | nil => exact ⟨j, by simp [unposted, postEach, Stop.pure_apply, Recorded.addEach]⟩
  | cons g gs ih =>
    rw [postEach]
    by_cases hlimit : limit ≤ posted
    · have hnone : (limit - posted).toNat = 0 := by omega
      simp only [hlimit, if_true, hnone, List.take_zero]
      exact ⟨_, rfl⟩
    · simp only [hlimit, if_false]
      by_cases hkey : g.comment.key ∈ keys
      · have hskip : unposted keys (g :: gs) = unposted keys gs :=
          List.filter_cons_of_neg (by simp [hkey])
        simp only [List.contains_iff_mem, hkey, if_true, hskip]
        exact ih posted r j
      · have htaken : (unposted keys (g :: gs)).take (limit - posted).toNat =
            g :: (unposted keys gs).take (limit - (posted + 1 : Nat)).toNat := by
          have hnext : (limit - posted).toNat = (limit - (posted + 1 : Nat)).toNat + 1 := by omega
          have hcons : unposted keys (g :: gs) = g :: unposted keys gs :=
            List.filter_cons_of_pos (by simp [hkey])
          rw [hcons, hnext, List.take_succ_cons]
        obtain ⟨j', hrest⟩ := ih (posted + 1) (r.add g.comment) j
        refine ⟨j', ?_⟩
        simp only [List.contains_iff_mem, hkey, if_false]
        rw [htaken, List.length_cons, ← Nat.add_assoc, Nat.add_right_comm]
        exact hrest

theorem postPlaces_recording (limit : Int) (fs : List Finding) (r : Recorded) (j : Journal) :
    ∃ j', postPlaces .recording limit fs (r, j) =
      (.ok ((unposted r.keys (groups fs)).take limit.toNat).length,
        (r.addEach ((unposted r.keys (groups fs)).take limit.toNat), j')) := by
  rw [postPlaces]
  cases hgroups : groups fs with
  | nil => exact ⟨j, by simp [unposted, Stop.pure_apply, Recorded.addEach]⟩
  | cons g gs =>
    obtain ⟨j', hposted⟩ := postEach_recording r.keys limit 0 (g :: gs) r j
    simp only [Nat.zero_add, Int.natCast_zero, Int.sub_zero] at hposted
    have hexisting : Sink.recording.existing (r, j) = (.ok r.keys, (r, j)) := rfl
    simp only [List.isEmpty_cons, Bool.false_eq_true, if_false, Stop.bind_apply, hexisting, hposted]
    split
    · exact ⟨_, rfl⟩
    · exact ⟨_, rfl⟩

theorem postWhole_recording (fs : List Finding) (r : Recorded) (j : Journal) :
    ∃ j', postWhole .recording fs (r, j) =
      if summaryKey (fingerprint fs) ∈ r.keys then (.ok false, (r, j'))
      else (.ok true, (r.addSummary (summaryBody (fs.map (·.placed))
        (Marker.ofSummary (summaryKey (fingerprint fs)))) (summaryKey (fingerprint fs)), j')) := by
  have hexisting : Sink.recording.existing (r, j) = (.ok r.keys, (r, j)) := rfl
  simp only [postWhole, Stop.bind_apply, hexisting, List.contains_iff_mem]
  by_cases hkey : summaryKey (fingerprint fs) ∈ r.keys
  · simp only [hkey, if_true]
    exact ⟨_, rfl⟩
  · simp only [hkey, if_false]
    exact ⟨_, rfl⟩

/-- With findings on lines of the diff, their groups are commented on. -/
theorem publish_of_mapped {o : Outcome} (hmapped : mapped o.findings ≠ []) (limit : Int)
    (r : Recorded) (j : Journal) :
    let posted := (unposted r.keys (groups (mapped o.findings))).take limit.toNat
    ∃ j', publish .recording limit o (r, j) =
      (.ok { o with commentsPosted := posted.length }, (r.addEach posted, j')) := by
  have hposts : (!o.findings.isEmpty && (mapped o.findings).isEmpty) = false := by simp [hmapped]
  obtain ⟨j', hposted⟩ := postPlaces_recording limit (mapped o.findings) r j
  refine ⟨j', ?_⟩
  rw [publish, if_neg (by simp [hposts]), Stop.bind_apply, hposted]
  rfl

/-- Without findings on lines of the diff, there is one comment at most, under a new key. -/
theorem publish_of_not_mapped {o : Outcome} (hmapped : mapped o.findings = []) (limit : Int)
    (r : Recorded) (j : Journal) :
    ∃ o' r' j', publish .recording limit o (r, j) = (.ok o', (r', j')) ∧
      (r' = r ∨ summaryKey (fingerprint o.findings) ∉ r.keys ∧
        ∃ body, r' = r.addSummary body (summaryKey (fingerprint o.findings))) := by
  by_cases hfound : o.findings = []
  · obtain ⟨j', hposted⟩ := postPlaces_recording limit [] r j
    have hgroups : groups [] = [] := List.mergeSort_nil
    rw [hgroups, unposted, List.filter_nil, List.take_nil] at hposted
    refine ⟨{ o with commentsPosted := 0 }, r, j', ?_, .inl rfl⟩
    rw [publish, if_neg (by simp [hfound]), hmapped, Stop.bind_apply, hposted]
    rfl
  · obtain ⟨j', hposted⟩ := postWhole_recording o.findings r j
    rw [publish, if_pos (by simp [hfound, hmapped]), Stop.bind_apply, hposted]
    by_cases hkey : summaryKey (fingerprint o.findings) ∈ r.keys
    · rw [if_pos hkey]
      exact ⟨_, r, j', rfl, .inl rfl⟩
    · rw [if_neg hkey]
      exact ⟨_, _, j', rfl, .inr ⟨hkey, _, rfl⟩⟩

/-! ### One review -/

/-- A review that is to be made, with a limit of its own if it has one. -/
structure Job where
  analyzer : Analyzer
  request : Request
  runner : Command.Runner
  limit : Option Int := none

namespace Job

def maxComments (b : Job) : Int := b.limit.getD b.analyzer.config.comments.maxComments

def findings (b : Job) : List Finding :=
  match (findAll b.analyzer b.request b.runner).outcome.1 with
  | .ok o => o.findings
  | .error _ => []

def run (b : Job) (r : Recorded) : Except Command.Error Outcome × Recorded :=
  let (o, r, _) := (Review.run b.analyzer b.request b.runner .recording b.limit).outcome r
  (o, r)

def pending (b : Job) (r : Recorded) : List Group := unposted r.keys (groups (mapped b.findings))

def next (b : Job) (r : Recorded) : List Group := (b.pending r).take b.maxComments.toNat

/-- Makes a review that hands its comments over to a sink. -/
def runOn {τ : Type} (b : Job) (sink : Sink τ) (t : τ) : Except Command.Error Outcome × τ :=
  let (o, t, _) := (Review.run b.analyzer b.request b.runner sink b.limit).outcome t
  (o, t)

/-- A review that cannot be made finds nothing and leaves every sink as it is; another one
publishes what it finds. -/
theorem runOn_cases (b : Job) :
    (∃ e, b.findings = [] ∧ ∀ {τ : Type} (sink : Sink τ) (t : τ), b.runOn sink t = (.error e, t)) ∨
      ∃ o j, b.findings = o.findings ∧ ∀ {τ : Type} (sink : Sink τ) (t : τ), b.runOn sink t =
        ((publish sink b.maxComments o (t, j)).1.mapError .fault,
          (publish sink b.maxComments o (t, j)).2.1) := by
  have hrun {τ : Type} (sink : Sink τ) (t : τ) : b.runOn sink t =
      ((Review.run b.analyzer b.request b.runner sink b.limit (t, {})).1,
        (Review.run b.analyzer b.request b.runner sink b.limit (t, {})).2.1) := rfl
  have hfindings : b.findings = match (findAll b.analyzer b.request b.runner {}).1 with
    | .ok o => o.findings
    | .error _ => [] := rfl
  simp only [hrun, hfindings, Review.run, Stop.bind_apply, WorldM.ofLog]
  cases findAll b.analyzer b.request b.runner {} with
  | mk o j =>
    cases o with
    | error e => exact .inl ⟨e, rfl, fun sink t => rfl⟩
    | ok o =>
      refine .inr ⟨o, j, rfl, fun sink t => ?_⟩
      dsimp only
      rw [WorldM.mapError_apply]
      rfl

/-- A review that cannot be made finds nothing and leaves all as it is; another one publishes
what it finds. -/
theorem run_cases (b : Job) (r : Recorded) :
    (∃ e, b.findings = [] ∧ b.run r = (.error e, r)) ∨
      ∃ o j, b.findings = o.findings ∧
        b.run r = ((publish .recording b.maxComments o (r, j)).1.mapError .fault,
          (publish .recording b.maxComments o (r, j)).2.1) := by
  obtain ⟨e, hnone, hrun⟩ | ⟨o, j, hfindings, hrun⟩ := b.runOn_cases
  · exact .inl ⟨e, hnone, hrun .recording r⟩
  · exact .inr ⟨o, j, hfindings, hrun .recording r⟩

/-- With findings on lines of the diff, a review comments on the groups that are next. -/
theorem run_of_mapped {b : Job} (hmapped : mapped b.findings ≠ []) (r : Recorded) :
    ∃ o, b.run r = (.ok o, r.addEach (b.next r)) ∧ o.commentsPosted = (b.next r).length := by
  obtain ⟨e, hnone, -⟩ | ⟨o, j, hfindings, hrun⟩ := b.run_cases r
  · exact absurd (by rw [hnone]; rfl) hmapped
  · rw [hfindings] at hmapped
    obtain ⟨j', hposted⟩ := publish_of_mapped hmapped b.maxComments r j
    refine ⟨{ o with commentsPosted := (b.next r).length }, ?_, rfl⟩
    rw [hrun, hposted, next, pending, hfindings]
    rfl

/-- Without findings on lines of the diff, a review comments on the whole at most. -/
theorem run_of_not_mapped {b : Job} (hmapped : mapped b.findings = []) (r : Recorded) :
    (b.run r).2 = r ∨ summaryKey (fingerprint b.findings) ∉ r.keys ∧
      ∃ body, (b.run r).2 = r.addSummary body (summaryKey (fingerprint b.findings)) := by
  obtain ⟨e, -, hrun⟩ | ⟨o, j, hfindings, hrun⟩ := b.run_cases r
  · exact .inl (congrArg Prod.snd hrun)
  · rw [hfindings] at hmapped ⊢
    obtain ⟨o', r', j', hposted, hr'⟩ := publish_of_not_mapped hmapped b.maxComments r j
    rw [hrun, hposted]
    exact hr'

/-- Whether lines that are commented on have keys of their own. -/
def KeysApart (b : Job) : Prop :=
  ∀ f ∈ mapped b.findings, ∀ g ∈ mapped b.findings,
    commentKey f.path f.issue.line = commentKey g.path g.issue.line →
      f.path = g.path ∧ f.issue.line = g.issue.line

theorem position_of_mem_mapped {b : Job} {f : Finding} (hf : f ∈ mapped b.findings) :
    f.position = positionIn b.analyzer b.request b.runner f.path f.issue.line := by
  have hf := List.mem_of_mem_filter hf
  rw [findings] at hf
  split at hf
  next o hfind => exact position_of_mem_findAll hfind hf
  next => cases hf

/-- What is found at one place is found on one line. -/
theorem line_eq_of_place? {b : Job} {f g : Finding} {p : String × Nat}
    (hf : f ∈ mapped b.findings) (hg : g ∈ mapped b.findings) (hfp : f.place? = some p)
    (hgp : g.place? = some p) : f.issue.line = g.issue.line := by
  obtain ⟨n, hn, rfl⟩ := Option.map_eq_some_iff.1 hfp
  obtain ⟨n', hn', hsame⟩ := Option.map_eq_some_iff.1 hgp
  obtain ⟨hpath, rfl⟩ := Prod.mk.inj hsame
  rw [position_of_mem_mapped hf] at hn
  rw [position_of_mem_mapped hg, hpath] at hn'
  exact positionIn_inj hn hn'

/-- The comment on a place tells all that is found there, under the key of its line. -/
theorem comment_groupAt {b : Job} {p : String × Nat} {f : Finding} (hf : f ∈ mapped b.findings)
    (hplace : f.place? = some p) :
    (groupAt (mapped b.findings) p).comment =
      ⟨p.1, p.2, commentBody (issuesAt (mapped b.findings) p)
        (Marker.ofComment (commentKey p.1 f.issue.line) p.1 f.issue.line),
        commentKey p.1 f.issue.line⟩ := by
  have hmem : f ∈ (mapped b.findings).filter (·.place? = some p) :=
    List.mem_filter.2 ⟨hf, by simpa using hplace⟩
  -- the key is made of the first line found there, which is every line found there
  cases hfirst : (mapped b.findings).filter (·.place? = some p) with
  | nil =>
    rw [hfirst] at hmem
    cases hmem
  | cons g rest =>
    have hhead : g ∈ (mapped b.findings).filter (·.place? = some p) := by simp [hfirst]
    have hgplace : g.place? = some p := by simpa using (List.mem_filter.1 hhead).2
    have hline := line_eq_of_place? (List.mem_of_mem_filter hhead) hf hgplace hplace
    simp [Group.comment, groupAt, issuesAt, hfirst, hline]

/-- The key of a place is that of each line on which something is found there. -/
theorem key_groupAt {b : Job} {p : String × Nat} {f : Finding} (hf : f ∈ mapped b.findings)
    (hplace : f.place? = some p) :
    (groupAt (mapped b.findings) p).comment.key = commentKey f.path f.issue.line := by
  obtain ⟨n, -, rfl⟩ := Option.map_eq_some_iff.1 hplace
  rw [comment_groupAt hf hplace]

theorem nodup_keys_groups (b : Job) (hkeys : b.KeysApart) :
    ((groups (mapped b.findings)).map (·.comment.key)).Nodup := by
  obtain ⟨ps, hps, hgroups⟩ := exists_isListing (mapped b.findings)
  rw [hgroups, List.map_map]
  refine List.pairwise_map.2 (hps.ascending.imp_of_mem fun {p q} hp hq hpq heq => ?_)
  obtain ⟨f, hf, hfp⟩ := (hps.mem p).1 hp
  obtain ⟨g, hg, hgq⟩ := (hps.mem q).1 hq
  rw [Function.comp_apply, Function.comp_apply, key_groupAt hf hfp, key_groupAt hg hgq] at heq
  obtain ⟨hpath, hline⟩ := hkeys f hf g hg heq
  have hsame : f.place? = g.place? := by
    rw [Finding.place?, Finding.place?, position_of_mem_mapped hf, position_of_mem_mapped hg,
      hpath, hline]
  obtain rfl : p = q := Option.some.inj (hfp.symm.trans (hsame.trans hgq))
  exact not_precedes_self p hpq

def commentAt (b : Job) (p : String × Nat) : Comment := (groupAt (mapped b.findings) p).comment

/-- One review forgets no key, and keeps a comment on the whole under a new key only. -/
theorem run_keys_summaries (b : Job) (r : Recorded) : r.keys ⊆ (b.run r).2.keys ∧
    ((b.run r).2.summaries = r.summaries ∨
      summaryKey (fingerprint b.findings) ∉ r.keys ∧
      summaryKey (fingerprint b.findings) ∈ (b.run r).2.keys ∧
      ∃ body, (b.run r).2.summaries = r.summaries ++ [body]) := by
  by_cases hmapped : mapped b.findings = []
  · obtain hrun | ⟨hkey, body, hrun⟩ := run_of_not_mapped hmapped r
    · rw [hrun]
      exact ⟨List.Subset.refl _, .inl rfl⟩
    · rw [hrun]
      exact ⟨fun key hkey => Recorded.mem_keys_addKey.2 (.inl hkey),
        .inr ⟨hkey, Recorded.mem_keys_addKey.2 (.inr rfl), body, rfl⟩⟩
  · obtain ⟨o, hrun, -⟩ := run_of_mapped hmapped r
    rw [hrun]
    exact ⟨fun key hkey => Recorded.mem_keys_addEach.2 (.inl hkey),
      .inl (r.summaries_addEach _)⟩

/-- One review keeps comments under new keys only, each under its own. -/
theorem run_keeps (b : Job) (hkeys : b.KeysApart) (r : Recorded) :
    ∃ new, (b.run r).2.comments = r.comments ++ new ∧ (new.map (·.key)).Nodup ∧
      ∀ c ∈ new, c.key ∉ r.keys ∧ c.key ∈ (b.run r).2.keys := by
  by_cases hmapped : mapped b.findings = []
  · refine ⟨[], ?_, .nil, nofun⟩
    obtain hrun | ⟨-, body, hrun⟩ := run_of_not_mapped hmapped r <;> rw [hrun]
    · exact (List.append_nil _).symm
    · exact (List.append_nil _).symm
  · obtain ⟨o, hrun, -⟩ := run_of_mapped hmapped r
    have hsub : (b.next r).Sublist (groups (mapped b.findings)) :=
      (List.take_sublist _ _).trans List.filter_sublist
    rw [hrun]
    refine ⟨(b.next r).map Group.comment, r.comments_addEach _, ?_, ?_⟩
    · rw [List.map_map]
      exact (b.nodup_keys_groups hkeys).sublist (hsub.map _)
    · intro c hc
      obtain ⟨g, hg, rfl⟩ := List.mem_map.1 hc
      refine ⟨by simpa using (List.mem_filter.1 (List.mem_of_mem_take hg)).2, ?_⟩
      exact Recorded.mem_keys_addEach.2 (.inr (List.mem_map_of_mem hg))

end Job

/-! ### Many reviews -/

/-- Makes reviews one after the other. -/
def session (bs : List Job) (r : Recorded) : Recorded := bs.foldl (fun r b => (b.run r).2) r

theorem session_keeps {bs : List Job} (hkeys : ∀ b ∈ bs, b.KeysApart) (r : Recorded) :
    ∃ new, (session bs r).comments = r.comments ++ new ∧ (new.map (·.key)).Nodup ∧
      ∀ c ∈ new, c.key ∉ r.keys := by
  induction bs generalizing r with
  | nil => exact ⟨[], (List.append_nil _).symm, .nil, nofun⟩
  | cons b bs ih =>
    obtain ⟨hb, hbs⟩ := List.forall_mem_cons.1 hkeys
    obtain ⟨new, hcomments, hnodup, hnew⟩ := b.run_keeps hb r
    obtain ⟨later, hcomments', hnodup', hlater⟩ := ih hbs (b.run r).2
    refine ⟨new ++ later, ?_, ?_, ?_⟩
    · rw [session, List.foldl_cons, ← session, hcomments', hcomments, List.append_assoc]
    · rw [List.map_append, List.nodup_append]
      refine ⟨hnodup, hnodup', ?_⟩
      intro key hkey key' hkey' heq
      obtain ⟨c, hc, rfl⟩ := List.mem_map.1 hkey
      obtain ⟨c', hc', rfl⟩ := List.mem_map.1 hkey'
      exact hlater c' hc' (heq ▸ (hnew c hc).2)
    · intro c hc
      rcases List.mem_append.1 hc with hc | hc
      · exact (hnew c hc).1
      · exact fun hkey => hlater c hc ((b.run_keys_summaries r).1 hkey)

theorem unposted_congr {keys keys' : List String} (h : ∀ key, key ∈ keys ↔ key ∈ keys')
    (gs : List Group) : unposted keys gs = unposted keys' gs := by
  simp [unposted, h]

theorem unposted_append (keys more : List String) (gs : List Group) :
    unposted (keys ++ more) gs = unposted more (unposted keys gs) := by
  rw [unposted, unposted, unposted, List.filter_filter]
  refine List.filter_congr fun g _ => ?_
  simp [Bool.and_comm]

/-- Of groups with keys of their own, those without the keys of the first ones are the others. -/
theorem unposted_take {gs : List Group} (hgs : (gs.map (·.comment.key)).Nodup) (n : Nat) :
    unposted ((gs.take n).map (·.comment.key)) gs = gs.drop n := by
  have happart : ((gs.take n).map (·.comment.key) ++ (gs.drop n).map (·.comment.key)).Nodup := by
    rwa [← List.map_append, List.take_append_drop]
  have hfirst : unposted ((gs.take n).map (·.comment.key)) (gs.take n) = [] :=
    List.filter_eq_nil_iff.2 fun g hg => by
      simpa only [decide_eq_true_eq, not_not] using List.mem_map_of_mem hg
  have hothers : unposted ((gs.take n).map (·.comment.key)) (gs.drop n) = gs.drop n := by
    refine List.filter_eq_self.2 fun g hg => ?_
    have hg : g.comment.key ∈ (gs.drop n).map (·.comment.key) := List.mem_map_of_mem hg
    have hkey : g.comment.key ∉ (gs.take n).map (·.comment.key) := fun h =>
      (List.nodup_append.1 happart).2.2 _ h _ hg rfl
    simpa using hkey
  calc unposted ((gs.take n).map (·.comment.key)) gs
      = unposted ((gs.take n).map (·.comment.key)) (gs.take n ++ gs.drop n) := by
        rw [List.take_append_drop]
    _ = gs.drop n := by
        rw [unposted, List.filter_append, ← unposted, ← unposted, hfirst, hothers, List.nil_append]

section Again

variable {b : Job} (hkeys : b.KeysApart)

theorem session_replicate_succ (b : Job) (r : Recorded) (n : Nat) :
    session (List.replicate (n + 1) b) r = (b.run (session (List.replicate n b) r)).2 := by
  rw [session, List.replicate_succ', List.foldl_append]
  rfl

include hkeys in
theorem next_of_mem_keys {n : Nat} {r r' : Recorded} (hr' : ∀ key, key ∈ r'.keys ↔
      key ∈ r.keys ++ ((b.pending r).take n).map (·.comment.key)) :
    b.next r' = ((b.pending r).drop n).take b.maxComments.toNat := by
  have hnodup : ((b.pending r).map (·.comment.key)).Nodup :=
    (b.nodup_keys_groups hkeys).sublist (List.filter_sublist.map _)
  rw [Job.next, Job.pending, unposted_congr hr', unposted_append, ← Job.pending,
    unposted_take hnodup]

include hkeys in
/-- After some times, the keys are there of as many groups as could be commented on. -/
theorem mem_keys_session_replicate (r : Recorded) (hmapped : mapped b.findings ≠ []) (n : Nat)
    (key : String) :
    key ∈ (session (List.replicate n b) r).keys ↔
      key ∈ r.keys ++ ((b.pending r).take (n * b.maxComments.toNat)).map (·.comment.key) := by
  induction n generalizing key with
  | zero => simp [session]
  | succ n ih =>
    obtain ⟨o, hrun, -⟩ := Job.run_of_mapped hmapped (session (List.replicate n b) r)
    rw [session_replicate_succ, hrun, Recorded.mem_keys_addEach, ih,
      next_of_mem_keys hkeys ih, Nat.succ_mul, List.take_add]
    simp only [List.mem_append, List.map_append, or_assoc]

end Again

/-! ### A review of two lines -/

/-- What the review of one file finds, where no linter is enabled. -/
theorem Job.findings_of_file {b : Job} {path text diff : String} {d : Diff}
    (hfiles : (supportedFiles b.runner b.request).outcome.1 = .ok [path])
    (hlinters : b.analyzer.config.linters = {})
    (htext : b.request.workspace.readLossy (b.request.directory.join (Path.ofString path)) =
      .ok text)
    (hdiff : (Git.fileDiff b.runner b.request.base b.request.head path).outcome.1 = .ok diff)
    (hread : Diff.read b.analyzer.config.comments.countHunkHeaders diff = .ok d) :
    b.findings = (b.analyzer.analyze text.toList none (some path) []).issues.map fun i =>
      ⟨path, i, d.positionOf? i.line⟩ := by
  have hlint (j : Journal) : (Linter.run b.runner b.analyzer.config.linters b.request.directory
      [path] j).1 = .ok [] := by
    rw [hlinters]
    rfl
  have hreadFile (j : Journal) : (readFile b.request b.runner path j).1 = .ok (text, diff) := by
    rw [readFile, htext]
    simp only [Stop.fst_bind, fileDiff_fst, hdiff]
    rfl
  have hcollect (j : Journal) : (collect b.analyzer b.request b.runner [] [path] j).1 =
      .ok ([(path, (b.analyzer.analyze text.toList none (some path) []).issues.map fun i =>
        ⟨path, i, d.positionOf? i.line⟩)], []) := by
    simp only [collect, Stop.fst_bind, LogM.attempt_apply, hreadFile, Stop.ok_bind, fileFindings,
      hread]
    rfl
  change (match (findAll b.analyzer b.request b.runner {}).1 with
    | .ok o => o.findings
    | .error _ => []) = _
  have hfiles : (supportedFiles b.runner b.request {}).1 = .ok [path] := hfiles
  simp only [findAll, Stop.fst_bind, hfiles, Stop.ok_bind, LogM.mapError_apply, hlint,
    Except.mapError, hcollect]
  exact List.append_nil _

def ruleOfX : Rule where
  source := "x"
  pattern := .set ⟨.exact, false, [.one 120]⟩
  scope := .single Rule.everyLanguage
  subCategory := "general"
  description := "x is found"

/-- A review of one file with two lines, each of which breaks a rule. One comment is posted at
a time. -/
def smallJob : Job where
  analyzer := ⟨{}, [{ name := "r", categories := [.mk "c" "C" .low [ruleOfX] [] []] }]⟩
  request := {
    workspace := ⟨Path.ofString "/ws", .directory [("a.py", .file "x\nx\n".toUTF8)]⟩
    directory := Path.ofString "/ws", base := "b", head := "h" }
  runner := fun args _ => .ok ⟨args, 0,
    if args.contains "--name-only" then "a.py\n" else "@@ -0,0 +1,2 @@\n+x\n+x\n", ""⟩
  limit := some 1

def smallIssues : List Issue :=
  Analyzer.ruleIssues false "python" "x\nx\n".toList smallJob.analyzer.collections

theorem issues_smallJob :
    (smallJob.analyzer.analyze "x\nx\n".toList none (some "a.py") []).issues = smallIssues := by
  have hordered : Issue.prioritize smallIssues = smallIssues :=
    List.mergeSort_of_pairwise (by decide +kernel)
  change Issue.prioritize (Issue.deduplicate _) = _
  refine (congrArg Issue.prioritize ?_).trans hordered
  decide +kernel

theorem places_smallJob :
    (mapped smallJob.findings).map (fun f => (f.path, f.issue.line, f.position)) =
      [("a.py", 1, some 1), ("a.py", 2, some 2)] := by
  have hplaces : ((Diff.read false "@@ -0,0 +1,2 @@\n+x\n+x\n").toOption.map fun d =>
      (d.positionOf? 1, d.positionOf? 2)) = some (some 1, some 2) := by
    decide +kernel
  obtain ⟨d, hread, hd⟩ := Option.map_eq_some_iff.1 hplaces
  obtain ⟨h1, h2⟩ := Prod.mk.inj hd
  have hfindings : smallJob.findings = smallIssues.map fun i =>
      ⟨"a.py", i, d.positionOf? i.line⟩ := by
    rw [← issues_smallJob]
    exact Job.findings_of_file (Stop.eq_ok_of_toOption (by decide +kernel)) rfl
      (Stop.eq_ok_of_toOption (by decide +kernel)) (Stop.eq_ok_of_toOption (by decide +kernel))
      (Stop.eq_ok_of_toOption hread)
  have hlines : smallIssues.map (·.line) = [1, 2] := by decide +kernel
  rw [hfindings]
  generalize smallIssues = is at hlines
  obtain ⟨i, is, rfl, hi, his⟩ := List.map_eq_cons_iff.1 hlines
  obtain ⟨k, ks, rfl, hk, hks⟩ := List.map_eq_cons_iff.1 his
  obtain rfl := List.map_eq_nil_iff.1 hks
  simp [mapped, hi, hk, h1, h2]

theorem keysApart_smallJob : smallJob.KeysApart := by
  have hlines : ∀ f ∈ mapped smallJob.findings,
      f.path = "a.py" ∧ (f.issue.line = 1 ∨ f.issue.line = 2) := by
    intro f hf
    have hmem := List.mem_map_of_mem (f := fun f => (f.path, f.issue.line, f.position)) hf
    rw [places_smallJob] at hmem
    simp only [List.mem_cons, Prod.mk.injEq, List.not_mem_nil, or_false] at hmem
    grind
  have hne : commentKey "a.py" 1 ≠ commentKey "a.py" 2 := by decide +kernel
  intro f hf g hg heq
  obtain ⟨hfpath, hfline⟩ := hlines f hf
  obtain ⟨hgpath, hgline⟩ := hlines g hg
  rw [hfpath, hgpath] at heq ⊢
  refine ⟨rfl, ?_⟩
  rcases hfline with hfline | hfline <;> rcases hgline with hgline | hgline <;>
    rw [hfline, hgline] at heq ⊢
  · exact absurd heq hne
  · exact absurd heq.symm hne

/-! ### Comments -/

/-- Whatever reviews are made one after the other, no comment is kept under a key that is there,
so no two are kept under one. A review that is made again and again comments on the places that
were missing in ascending order, in each round on as many as its limit allows, until none is
left. A comment on the whole is kept under a new key, too. -/
theorem session_comments :
    (∀ (bs : List Job) (r : Recorded), (∀ b ∈ bs, b.KeysApart) →
      ∃ new, (session bs r).comments = r.comments ++ new ∧ (new.map (·.key)).Nodup ∧
        ∀ c ∈ new, c.key ∉ r.keys) ∧
    (∀ (b : Job) (r : Recorded), b.KeysApart → mapped b.findings ≠ [] →
      ∃ ps, IsListing (mapped b.findings) ps ∧
        (∀ f ∈ mapped b.findings, ∀ p, f.place? = some p →
          (b.commentAt p).key = commentKey f.path f.issue.line) ∧
        ∀ n : Nat, ∃ o, ∃ next : List (String × Nat),
          next = ((ps.filter fun p => (b.commentAt p).key ∉ r.keys).drop
            (n * b.maxComments.toNat)).take b.maxComments.toNat ∧
          b.run (session (List.replicate n b) r) =
            (.ok o, session (List.replicate (n + 1) b) r) ∧
          o.commentsPosted = next.length ∧
          (session (List.replicate (n + 1) b) r).comments =
            (session (List.replicate n b) r).comments ++ next.map b.commentAt) ∧
    ∀ (b : Job) (r : Recorded), r.keys ⊆ (b.run r).2.keys ∧
      ((b.run r).2.summaries = r.summaries ∨
        summaryKey (fingerprint b.findings) ∉ r.keys ∧
        summaryKey (fingerprint b.findings) ∈ (b.run r).2.keys ∧
        ∃ body, (b.run r).2.summaries = r.summaries ++ [body]) := by
  refine ⟨fun bs r hkeys => session_keeps hkeys r, fun b r hkeys hmapped => ?_, fun b r => ?_⟩
  · obtain ⟨ps, hps, hgroups⟩ := exists_isListing (mapped b.findings)
    refine ⟨ps, hps, fun f hf p hplace => Job.key_groupAt hf hplace, fun n => ?_⟩
    obtain ⟨o, hrun, hposted⟩ := Job.run_of_mapped hmapped (session (List.replicate n b) r)
    have hpending : b.pending r = (ps.filter fun p => (b.commentAt p).key ∉ r.keys).map
        (groupAt (mapped b.findings)) := by
      rw [Job.pending, hgroups, unposted, List.filter_map]
      rfl
    have hnext := next_of_mem_keys hkeys (mem_keys_session_replicate hkeys r hmapped n)
    rw [hpending, ← List.map_drop, ← List.map_take] at hnext
    refine ⟨o, _, rfl, ?_, ?_, ?_⟩
    · rw [session_replicate_succ, hrun]
    · rw [hposted, hnext, List.length_map]
    · rw [session_replicate_succ, hrun, Recorded.comments_addEach, hnext, List.map_map]
      rfl
  · exact b.run_keys_summaries r

/-- A review of two lines is made twice; the first time it comments on one of them. -/
theorem session_comments_smallJob :
    smallJob.KeysApart ∧ mapped smallJob.findings ≠ [] ∧
      (∃ new, (session [smallJob, smallJob] {}).comments = [] ++ new ∧ (new.map (·.key)).Nodup ∧
        ∀ c ∈ new, c.key ∉ []) ∧
      ∃ o, (smallJob.run {}).1 = .ok o ∧ o.commentsPosted = 1 := by
  have hmapped : mapped smallJob.findings ≠ [] := by
    intro hnone
    have hplaces := places_smallJob
    rw [hnone] at hplaces
    cases hplaces
  refine ⟨keysApart_smallJob, hmapped,
    session_comments.1 [smallJob, smallJob] {} (by simp [keysApart_smallJob]), ?_⟩
  obtain ⟨ps, hps, -, hrounds⟩ := session_comments.2.1 smallJob {} keysApart_smallJob hmapped
  obtain ⟨o, next, hnext, hrun, hposted, -⟩ := hrounds 0
  refine ⟨o, congrArg Prod.fst hrun, ?_⟩
  have hplace : ("a.py", 1) ∈ ps := by
    obtain ⟨f, hf, hplaces⟩ : ∃ f ∈ mapped smallJob.findings,
        (f.path, f.issue.line, f.position) = ("a.py", 1, some 1) :=
      List.mem_map.1 (places_smallJob ▸ List.mem_cons_self)
    simp only [Prod.mk.injEq] at hplaces
    exact (hps.mem _).2 ⟨f, hf, by simp [Finding.place?, hplaces]⟩
  have hlimit : smallJob.maxComments.toNat = 1 := rfl
  rw [hposted, hnext, hlimit]
  cases ps with
  | nil => cases hplace
  | cons p ps => simp

end RuleReview.Review
