/-
Cached textures do not cross producers. A frame whose texture is found in its slot was preceded
by one for which the updater imported that texture: in the same slot, with the same buffer and
dataspace, and delivered by the same source, which was installed all the while. In between no
frame brought anything else into the slot, and no detach came. So the first frame in a slot
after a source is installed never finds a texture, whatever numbers the producers use.

That is what the history says of rooted updaters (`Session.run_rooted`).
-/
import LayerFeed.Proofs.Session.Rooted

namespace LayerFeed.Session

/-- Where the textures come from that updater `i` uses again. -/
structure Provenance (i : UpdaterId) (h : List Entry) : Prop where
  /-- A frame whose texture was found did not ask for a new one, and the texture was imported for
  an earlier frame of the same slot, buffer and dataspace, which the same source had delivered;
  and it was unsettled by nothing since. -/
  reused : ∀ pre frame t post, h = pre ++ .latched i frame (.cached t) :: post →
    frame.forceRecreate = false ∧ ∃ ref, delivering i pre = some ref
      ∧ Imported i frame.slot ref t frame.buffer.id frame.dataspace pre
  /-- After a source is installed, the texture of the first frame in a slot is never found. -/
  first : ∀ pre ref between frame resolved post,
    h = pre ++ .source ref .installed :: between ++ .latched i frame resolved :: post →
    ref.owner = i → (∀ earlier r, .latched i earlier r ∈ between → earlier.slot ≠ frame.slot) →
    ∀ t, resolved ≠ .cached t

/-- In every run the textures that an updater uses again come from the source that is installed. -/
theorem run_provenance (minimal : Bool) (b : Backend) (commands : List Command) (i : UpdaterId) :
    Provenance i ((start minimal b).run commands).world.history := by
  have told := (run_rooted minimal b commands i).told
  refine ⟨fun pre frame t post split => told pre _ post split frame t rfl, ?_⟩
  intro pre ref between frame resolved post split owner new t cached
  obtain ⟨-, ref', -, imported⟩ := told _ _ post split frame t (by rw [cached])
  obtain ⟨earlier, r, mem, same⟩ := imported.after_installed owner
  exact new earlier r mem same

/-- Three times the same frame; the third comes from another source. -/
example :
    let frame := Frame.ofBuffer ⟨0⟩ ⟨⟨1⟩, ⟨64, 32, 1⟩, none⟩ .srgb
    let s := (start false {}).run [.newUpdater "u" {} (.registered "s") .unchanged,
      .attach "u" "first" { frames := [frame, frame], fifo := true } none, .apply "u", .post "u",
      .apply "u", .detach "u", .attach "u" "second" { frames := [frame] } none, .apply "u"]
    (s.world.history.filterMap Entry.taken?).map Prod.snd
      = [.created 1, .cached 1, .created 2] := by
  decide

end LayerFeed.Session
