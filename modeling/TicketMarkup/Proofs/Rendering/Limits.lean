import TicketMarkup.Proofs.Rendering.Tickets

/-!
# The limit in force

A rendering accepts what is loaded under its limit. It keeps to a limit (`Rendering.KeepsTo`) if
what is refused under that limit is refused, and what is loaded under it is formatted and written;
and there is only one limit that it keeps to, its own (`Rendering.keepsTo_iff`), because data that
is nested deep enough is refused under every limit, with the limit in the fault.

Main statement: `limit_in_force`, the limit of a rendering is the one among the options, unless that
is zero: a limit of zero leaves the one of the settings in force, as no limit does. No other limit
among the options gives way to the one of the settings.
-/

namespace TicketMarkup

namespace Rendering

/-- Whether a rendering keeps to a limit: what cannot be loaded under it is not rendered, for the
same reason, and otherwise the nodes that are loaded under it are formatted and written. -/
structure KeepsTo (r : Rendering) (limit : Int) : Prop where
  refuses : ∀ data failure, (loadDocument limit data).outcome = .error failure →
    r.display data = .error failure ∧ r.render data = .error (.load failure)
  formats : ∀ data d, (loadDocument limit data).outcome = .ok d →
    r.display data = .ok (format (r.context d) d.nodes) ∧
      r.render data = (r.renderer.render (format (r.context d) d.nodes)).mapError .numbering

/-- A rendering keeps to its own limit. -/
theorem keepsTo_limit (r : Rendering) : r.KeepsTo r.limit where
  refuses := by
    intro data failure h
    have hdisplay : r.display data = .error failure := by rw [display, h]
    exact ⟨hdisplay, by rw [render, hdisplay]⟩
  formats := by
    intro data d h
    have hdisplay : r.display data = .ok (format (r.context d) d.nodes) := by rw [display, h]
    refine ⟨hdisplay, ?_⟩
    simp only [render, hdisplay]
    cases r.renderer.render (format (r.context d) d.nodes) <;> rfl

/-! ## Data beyond a limit -/

/-- Quotes in quotes, with so many sequences below the first. -/
def quotesToLevel : Nat → Json
  | 0 => .arr []
  | levels + 1 => .arr [.obj [("type", .str "citation"), ("children", quotesToLevel levels)]]

/-- Quotes nested to more levels than the limit leaves are too deep. -/
theorem loadSequence_quotesToLevel {limit : Int} {depth levels : Nat} (place : Location)
    (h : limit < (depth + levels : Nat)) :
    ∃ place', (loadSequence limit depth place (quotesToLevel levels)).outcome =
      .error (.malformed (.tooDeep limit place')) := by
  induction levels generalizing depth place with
  | zero =>
    have hdepth : limit < (depth : Nat) := h
    refine ⟨place, ?_⟩
    rw [quotesToLevel, loadSequence, if_pos hdepth, Loading.outcome_fault]
  | succ levels ih =>
    rw [quotesToLevel, loadSequence]
    split
    next => exact ⟨place, rfl⟩
    next =>
      have hnext : limit < (depth + 1 + levels : Nat) := by omega
      obtain ⟨place', hdeep⟩ := ih (place ++ [.item 0] ++ [.children]) hnext
      refine ⟨place', ?_⟩
      have hkind : Kind.ofTag? "citation" = some .quote := rfl
      have hnode : (loadNode limit depth (place ++ [.item 0])
          (.obj [("type", .str "citation"), ("children", quotesToLevel levels)])).outcome =
          .error (.malformed (.tooDeep limit place')) := by
        simp only [loadNode, Fields.get?, if_true, hkind, loadChildren, Traced.outcome_bind]
        rw [if_neg (by decide), hdeep]
        rfl
      rw [loadNodes, Traced.outcome_bind, hnode]
      rfl

/-- There is data that is nested too deep for both of two limits. -/
theorem exists_tooDeep (limit limit' : Int) : ∃ data place place',
    (loadDocument limit data).outcome = .error (.malformed (.tooDeep limit place)) ∧
    (loadDocument limit' data).outcome = .error (.malformed (.tooDeep limit' place')) := by
  obtain ⟨levels, hlimit, hlimit'⟩ : ∃ levels : Nat, limit < levels ∧ limit' < levels :=
    ⟨(max limit limit').toNat + 1, by omega, by omega⟩
  have hdocument : ∀ l, loadDocument l (quotesToLevel levels) =
      (load l (quotesToLevel levels) >>= fun nodes => pure ⟨nodes, .null⟩) := fun l => by
    cases levels <;> rfl
  have hdeep : ∀ l < (levels : Int), ∃ place, (loadDocument l (quotesToLevel levels)).outcome =
      .error (.malformed (.tooDeep l place)) := by
    intro l hl
    have hlevels : l < (0 + levels : Nat) := by omega
    obtain ⟨place, h⟩ := loadSequence_quotesToLevel [] hlevels
    refine ⟨place, ?_⟩
    rw [hdocument, load, Traced.outcome_bind, h]
    rfl
  obtain ⟨place, h⟩ := hdeep limit hlimit
  obtain ⟨place', h'⟩ := hdeep limit' hlimit'
  exact ⟨_, place, place', h, h'⟩

/-- The only limit that a rendering keeps to is its own. -/
theorem keepsTo_iff {r : Rendering} {limit : Int} : r.KeepsTo limit ↔ r.limit = limit := by
  constructor
  · intro h
    -- Data beyond both limits is refused under either, and the fault names the limit.
    obtain ⟨data, place, place', hlimit, hown⟩ := exists_tooDeep limit r.limit
    have hrefused := (h.refuses data _ hlimit).1
    rw [(r.keepsTo_limit.refuses data _ hown).1] at hrefused
    cases hrefused
    rfl
  · rintro rfl
    exact r.keepsTo_limit

/-! ## Options -/

/-- The limits among the options and the settings make the limit of the rendering, and nothing else
depends on them. -/
theorem ofOptions_limit (options : Options) (settings : Settings) (given : Option Int) (set : Int) :
    ofOptions { options with limit := given } { settings with limit := set } =
      (ofOptions options settings).map fun r => { r with limit := Options.limitOr given set } := by
  unfold ofOptions
  cases OutputFormat.ofName (Options.textOr options.format settings.format) <;> rfl

/-- The limit of a rendering comes from the options or else from the settings. -/
theorem limit_of_ofOptions {options : Options} {settings : Settings} {r : Rendering}
    (h : ofOptions options settings = .ok r) :
    r.limit = Options.limitOr options.limit settings.limit := by
  unfold ofOptions at h
  split at h
  next => cases h
  next =>
    cases h
    rfl

/-- A limit that is given is in force unless it is zero and the settings have another one. -/
theorem limitOr_some_eq_self_iff {m set : Int} :
    Options.limitOr (some m) set = m ↔ m ≠ 0 ∨ set = 0 := by
  rw [Options.limitOr]
  split <;> omega

theorem limitOr_some_of_ne {m : Int} (h : m ≠ 0) (set : Int) : Options.limitOr (some m) set = m :=
  if_neg h

end Rendering

open Rendering in
/-- A rendering with a limit among its options keeps to that limit exactly if it is not zero, or
the limit of the settings is zero as well. A limit among the options that is not zero is kept to
whatever the settings say, which only count if there is none, or if it is zero. -/
theorem limit_in_force (options : Options) (settings : Settings) :
    (∀ m r, ofOptions { options with limit := some m } settings = .ok r →
      (r.KeepsTo m ↔ m ≠ 0 ∨ settings.limit = 0)) ∧
    (∀ m set, m ≠ 0 →
      ofOptions { options with limit := some m } { settings with limit := set } =
        ofOptions { options with limit := some m } settings) ∧
    (∀ r, ofOptions { options with limit := none } settings = .ok r →
      r.KeepsTo settings.limit) ∧
    ofOptions { options with limit := some 0 } settings =
      ofOptions { options with limit := none } settings := by
  refine ⟨fun m r h => ?_, fun m set hm => ?_, fun r h => ?_, ?_⟩
  · rw [keepsTo_iff, limit_of_ofOptions h, limitOr_some_eq_self_iff]
  · have hset : ∀ set, ofOptions { options with limit := some m } { settings with limit := set } =
        (ofOptions options settings).map fun r => { r with limit := m } := fun set => by
      rw [ofOptions_limit, limitOr_some_of_ne hm]
    exact (hset set).trans (hset settings.limit).symm
  · rw [keepsTo_iff, limit_of_ofOptions h, Options.limitOr]
  · exact (ofOptions_limit options settings (some 0) settings.limit).trans
      (ofOptions_limit options settings none settings.limit).symm

open Rendering in
/-- A negative limit keeps everything out, whatever the settings say. A limit of zero keeps nothing
out that the settings let in. -/
theorem limit_in_force_none_or_zero :
    (ofOptions { limit := some (-1) } .default =
        .ok ⟨.html Html.defaultProfiles, Context.defaultBase, .null, -1⟩ ∧
      KeepsTo ⟨.html Html.defaultProfiles, Context.defaultBase, .null, -1⟩ (-1)) ∧
    ((-1 : Int) ≠ 0 ∧
      ofOptions { limit := some (-1) } { Settings.default with limit := 7 } =
        ofOptions { limit := some (-1) } .default) ∧
    (ofOptions {} .default =
        .ok ⟨.html Html.defaultProfiles, Context.defaultBase, .null, defaultDepthLimit⟩ ∧
      KeepsTo ⟨.html Html.defaultProfiles, Context.defaultBase, .null, defaultDepthLimit⟩
        defaultDepthLimit) ∧
    ofOptions { limit := some 0 } .default = ofOptions {} .default := by
  obtain ⟨hgiven, hsettings, hnone, hzero⟩ := limit_in_force {} .default
  exact ⟨⟨rfl, (hgiven (-1) _ rfl).2 (.inl (by decide))⟩,
    ⟨by decide, hsettings (-1) 7 (by decide)⟩, ⟨rfl, hnone _ rfl⟩, hzero⟩

open Rendering in
/-- A text in bold goes through a limit of zero, under which it cannot be loaded. -/
theorem not_keepsTo_zero :
    ∃ r, ofOptions { limit := some 0 } .default = .ok r ∧
      (loadDocument 0 (.arr [.obj [("type", .str "bold")]])).outcome =
        .error (.malformed (.tooDeep 0 [.item 0, .children])) ∧
      r.render (.arr [.obj [("type", .str "bold")]]) = .ok "<p><strong></strong></p>" ∧
      ¬r.KeepsTo 0 := by
  have hrendered :
      render ⟨.html Html.defaultProfiles, Context.defaultBase, .null, defaultDepthLimit⟩
        (.arr [.obj [("type", .str "bold")]]) = .ok "<p><strong></strong></p>" := rfl
  refine ⟨_, rfl, rfl, hrendered, fun h => ?_⟩
  have hrefused := (h.refuses (.arr [.obj [("type", .str "bold")]]) _ rfl).2
  cases hrendered.symm.trans hrefused

end TicketMarkup
