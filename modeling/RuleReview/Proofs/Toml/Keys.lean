import RuleReview.Proofs.Data
import RuleReview.Proofs.Stop
import RuleReview.Toml.Document

/-! What is read of a configuration file has each key of a table once: every way in which a
member is added leaves the keys before it as they are. -/

namespace RuleReview.Toml

open Data (IsKeyed isKeyed_list isKeyed_object)

variable {fuel room : Nat} {cs rest : List Char} {d : Data} {ms ms' : List (String × Data)}

/-! ### Tables -/

theorem isKeyed_nil : IsKeyed (.object []) := .object List.nodup_nil nofun

theorem isKeyed_updateTable {lists : Bool}
    {f : List (String × Data) → Option (List (String × Data))}
    (hf : ∀ ms ms', IsKeyed (.object ms) → f ms = some ms' → IsKeyed (.object ms')) {key : Key}
    (hms : IsKeyed (.object ms)) (h : updateTable lists f key ms = some ms') :
    IsKeyed (.object ms') := by
  induction key generalizing ms ms' with
  | nil => exact hf ms ms' hms h
  | cons k ks ih =>
    rw [updateTable] at h
    split at h
    next =>
      obtain ⟨inner', hinner', rfl⟩ := Option.map_eq_some_iff.1 h
      exact (ih isKeyed_nil hinner').assign hms
    next inner hinner =>
      obtain ⟨inner', hinner', rfl⟩ := Option.map_eq_some_iff.1 h
      exact (ih (hms.lookup hinner) hinner').assign hms
    next xs hxs =>
      split at h
      next inner hlast =>
        obtain ⟨inner', hinner', rfl⟩ := Option.map_eq_some_iff.1 h
        have hall := isKeyed_list.1 (hms.lookup hxs)
        have hinner : IsKeyed (.object inner) := hall _ (List.mem_of_getLast? hlast)
        refine IsKeyed.assign (.list fun x hx => ?_) hms
        rcases List.mem_append.1 hx with hx | hx
        · exact hall x (List.dropLast_subset xs hx)
        · rw [List.mem_singleton.1 hx]
          exact ih hinner hinner'
      next => cases h
    next => cases h

theorem isKeyed_addNew {k : String} (hd : IsKeyed d) (hms : IsKeyed (.object ms))
    (h : addNew k d ms = some ms') : IsKeyed (.object ms') := by
  rw [addNew] at h
  split at h
  next => cases h
  next => cases h; exact hd.assign hms

/-! ### Values -/

theorem isKeyed_readDecimal (h : readDecimal cs = .ok (d, rest)) : IsKeyed d := by
  rw [readDecimal] at h
  dsimp only at h
  split at h
  next => cases h
  next =>
    split at h
    next =>
      split at h
      next => cases h
      next => cases h; exact .leaf rfl rfl
    next => cases h; exact .leaf rfl rfl

theorem isKeyed_readBased {base : Nat} {p : Char → Bool}
    (h : readBased base p cs = some (d, rest)) : IsKeyed d := by
  rw [readBased] at h
  split at h
  next => cases h
  next => cases h; exact .leaf rfl rfl

theorem isKeyed_readSpecial (h : readSpecial cs = some (d, rest)) : IsKeyed d := by
  rw [readSpecial.eq_def] at h
  split at h
  all_goals cases h
  all_goals exact .leaf rfl rfl

theorem isKeyed_readNumber (h : readNumber cs = .ok (d, rest)) : IsKeyed d := by
  rw [readNumber.eq_def] at h
  split at h
  case h_4 =>
    dsimp only at h
    split at h
    next r _ hspecial => cases h; exact isKeyed_readSpecial hspecial
    next => exact isKeyed_readDecimal h
  -- the numbers that may have another base
  all_goals
    dsimp only at h
    split at h
    next r hbased => cases h; exact isKeyed_readBased hbased
    next =>
      split at h
      next r _ hspecial => cases h; exact isKeyed_readSpecial hspecial
      next => exact isKeyed_readDecimal h

theorem isKeyed_readPlain (h : readPlain cs = .ok (d, rest)) : IsKeyed d := by
  rw [readPlain] at h
  split at h
  next => cases h; exact .leaf rfl rfl
  next => cases h
  next =>
    split at h
    next => cases h; exact .leaf rfl rfl
    next => exact isKeyed_readNumber h

/-- What holds of all that is read with some fuel. -/
structure Keyed (fuel : Nat) : Prop where
  value : ∀ {room cs d rest}, readValue fuel room cs = .ok (d, rest) → IsKeyed d
  items : ∀ {room cs xs rest}, readItems fuel room cs = .ok (xs, rest) → ∀ x ∈ xs, IsKeyed x
  inline : ∀ {room frozen ms cs ms' rest}, IsKeyed (.object ms) →
    readInline fuel room frozen ms cs = .ok (ms', rest) → IsKeyed (.object ms')
  pair : ∀ {room cs key d rest}, readPair fuel room cs = .ok (key, d, rest) → IsKeyed d

theorem isKeyed_readValue (ih : Keyed fuel) (h : readValue (fuel + 1) room cs = .ok (d, rest)) :
    IsKeyed d := by
  rw [readValue.eq_def] at h
  dsimp only at h
  split at h
  case h_5 | h_6 => cases h; exact .leaf rfl rfl
  case h_7 =>
    obtain ⟨room, -, h⟩ := Stop.bind_eq_ok.1 h
    obtain ⟨cs, -, h⟩ := Stop.bind_eq_ok.1 h
    obtain ⟨r, hitems, h⟩ := Stop.bind_eq_ok.1 h
    cases h
    exact .list (ih.items hitems)
  case h_8 =>
    obtain ⟨room, -, h⟩ := Stop.bind_eq_ok.1 h
    split at h
    next => cases h; exact isKeyed_nil
    next =>
      obtain ⟨r, hinline, h⟩ := Stop.bind_eq_ok.1 h
      cases h
      exact ih.inline isKeyed_nil hinline
  case h_9 => exact isKeyed_readPlain h
  -- what is left are the texts
  all_goals
    obtain ⟨r, -, h⟩ := Stop.bind_eq_ok.1 h
    cases h
    exact .leaf rfl rfl

theorem isKeyed_readItems (ih : Keyed fuel) {xs : List Data}
    (h : readItems (fuel + 1) room cs = .ok (xs, rest)) : ∀ x ∈ xs, IsKeyed x := by
  rw [readItems.eq_def] at h
  dsimp only at h
  split at h
  next =>
    cases h
    exact fun _ hx => absurd hx List.not_mem_nil
  next =>
    obtain ⟨r, hvalue, h⟩ := Stop.bind_eq_ok.1 h
    obtain ⟨cs, -, h⟩ := Stop.bind_eq_ok.1 h
    have hfirst : IsKeyed r.1 := ih.value hvalue
    split at h
    next =>
      cases h
      exact List.forall_mem_singleton.2 hfirst
    next =>
      obtain ⟨cs, -, h⟩ := Stop.bind_eq_ok.1 h
      obtain ⟨r', hitems, h⟩ := Stop.bind_eq_ok.1 h
      cases h
      exact List.forall_mem_cons.2 ⟨hfirst, ih.items hitems⟩
    next => cases h

theorem isKeyed_readInline (ih : Keyed fuel) {frozen : List Key} (hms : IsKeyed (.object ms))
    (h : readInline (fuel + 1) room frozen ms cs = .ok (ms', rest)) : IsKeyed (.object ms') := by
  rw [readInline.eq_def] at h
  dsimp only at h
  obtain ⟨⟨key, value, cs⟩, hpair, h⟩ := Stop.bind_eq_ok.1 h
  dsimp only at h
  have hvalue : IsKeyed value := ih.pair hpair
  split at h
  next => cases h
  next =>
    split at h
    next added hadded =>
      have hadded : IsKeyed (.object added) :=
        isKeyed_updateTable (fun _ _ => isKeyed_addNew hvalue) hms hadded
      split at h
      next => cases h; exact hadded
      next => exact ih.inline hadded h
      next => cases h
    next => cases h

theorem isKeyed_readPair (ih : Keyed fuel) {key : Key}
    (h : readPair (fuel + 1) room cs = .ok (key, d, rest)) : IsKeyed d := by
  rw [readPair.eq_def] at h
  dsimp only at h
  obtain ⟨r, -, h⟩ := Stop.bind_eq_ok.1 h
  split at h
  next =>
    obtain ⟨r', hvalue, h⟩ := Stop.bind_eq_ok.1 h
    cases h
    exact ih.value hvalue
  next => cases h

theorem keyed (fuel : Nat) : Keyed fuel := by
  induction fuel with
  | zero =>
    constructor
    · intro room cs d rest h
      rw [readValue] at h
      cases h
    · intro room cs xs rest h
      rw [readItems] at h
      cases h
    · intro room frozen ms cs ms' rest _ h
      rw [readInline] at h
      cases h
    · intro room cs key d rest h
      rw [readPair] at h
      cases h
  | succ fuel ih =>
    exact ⟨isKeyed_readValue ih, isKeyed_readItems ih, isKeyed_readInline ih, isKeyed_readPair ih⟩

/-! ### Documents -/

namespace Document

variable {doc doc' : Document} {key : Key}

theorem isKeyed_openTable (hdoc : IsKeyed (.object doc.members))
    (h : doc.openTable key = .ok doc') : IsKeyed (.object doc'.members) := by
  rw [openTable] at h
  dsimp only at h
  split at h
  next => cases h
  next =>
    split at h
    next members hmembers =>
      cases h
      exact isKeyed_updateTable (fun _ _ hms hsame => Option.some.inj hsame ▸ hms) hdoc hmembers
    next => cases h

theorem isKeyed_openItem (hdoc : IsKeyed (.object doc.members))
    (h : doc.openItem key = .ok doc') : IsKeyed (.object doc'.members) := by
  rw [openItem] at h
  dsimp only at h
  split at h
  next => cases h
  next =>
    split at h
    next members hmembers =>
      cases h
      refine isKeyed_updateTable (fun ms ms' hms hlast => ?_) hdoc hmembers
      split at hlast
      next =>
        cases hlast
        exact IsKeyed.assign (.list (List.forall_mem_singleton.2 isKeyed_nil)) hms
      next xs hxs =>
        cases hlast
        refine IsKeyed.assign (.list (List.forall_mem_append.2 ⟨?_, ?_⟩)) hms
        · exact isKeyed_list.1 (hms.lookup hxs)
        · exact List.forall_mem_singleton.2 isKeyed_nil
      next => cases hlast
    next => cases h

theorem isKeyed_add {value : Data} (hvalue : IsKeyed value) (hdoc : IsKeyed (.object doc.members))
    (h : doc.add key value = .ok doc') : IsKeyed (.object doc'.members) := by
  rw [add] at h
  dsimp only at h
  split at h
  next => cases h
  next =>
    split at h
    next => cases h
    next =>
      split at h
      next members hmembers =>
        cases h
        exact isKeyed_updateTable (fun _ _ => isKeyed_addNew hvalue) hdoc hmembers
      next => cases h

theorem isKeyed_readHeader (hdoc : IsKeyed (.object doc.members))
    (h : doc.readHeader cs = .ok (doc', rest)) : IsKeyed (.object doc'.members) := by
  rw [readHeader.eq_def] at h
  split at h
  next =>
    obtain ⟨⟨key, cs⟩, -, h⟩ := Stop.bind_eq_ok.1 h
    obtain ⟨opened, hopened, h⟩ := Stop.bind_eq_ok.1 h
    split at h
    next =>
      cases h
      have hsettled : IsKeyed (.object doc.settle.members) := hdoc
      exact isKeyed_openItem hsettled hopened
    next => cases h
  next =>
    obtain ⟨⟨key, cs⟩, -, h⟩ := Stop.bind_eq_ok.1 h
    obtain ⟨opened, hopened, h⟩ := Stop.bind_eq_ok.1 h
    split at h
    next =>
      cases h
      have hsettled : IsKeyed (.object doc.settle.members) := hdoc
      exact isKeyed_openTable hsettled hopened
    next => cases h

theorem isKeyed_readLine (hdoc : IsKeyed (.object doc.members))
    (h : doc.readLine cs = .ok (doc', rest)) : IsKeyed (.object doc'.members) := by
  rw [readLine.eq_def] at h
  split at h
  next => cases h; exact hdoc
  next => cases h; exact hdoc
  next => cases h; exact hdoc
  next => exact isKeyed_readHeader hdoc h
  next =>
    obtain ⟨⟨key, value, cs⟩, hpair, h⟩ := Stop.bind_eq_ok.1 h
    obtain ⟨added, hadded, h⟩ := Stop.bind_eq_ok.1 h
    cases h
    exact isKeyed_add ((keyed _).pair hpair) hdoc hadded

theorem isKeyed_readLines (hdoc : IsKeyed (.object doc.members))
    (h : readLines fuel doc cs = .ok doc') : IsKeyed (.object doc'.members) := by
  induction fuel generalizing doc cs with
  | zero => cases h; exact hdoc
  | succ fuel ih =>
    rw [readLines] at h
    obtain ⟨⟨next, cs⟩, hline, h⟩ := Stop.bind_eq_ok.1 h
    obtain ⟨cs, -, h⟩ := Stop.bind_eq_ok.1 h
    have hnext := isKeyed_readLine hdoc hline
    split at h
    next => cases h; exact hnext
    next => exact ih hnext h
    next => cases h

end Document

/-- A configuration file that is read has each key of each table once. -/
theorem isKeyed_read {s : String} (h : read s = .ok ms) : IsKeyed (.object ms) := by
  obtain ⟨doc, hdoc, rfl⟩ := Stop.map_eq_ok.1 h
  exact Document.isKeyed_readLines isKeyed_nil hdoc

end RuleReview.Toml
