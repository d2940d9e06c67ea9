/-
When a source is asked for a frame. The mailbox of an updater is one bit, and everybody may
post to it at any time: before a source is installed, while there is none, and from inside the
callbacks of the source that is being asked. What the bit tells is that the history has a post
of the updater after which no source of it was asked (`Unserved`, `run_waiting`).

The other bit that an apply reads says whether the source was taken. It was exactly if an
apply has found it before (`run_taken`): a source is taken by nothing else (`exec_course`), and
the first apply that finds it takes it.

Together they say when an apply asks: at most once, and if the source was not applied before
or a post is unserved (`run_asks`). A post leaves exactly one entry for the updater that it is
made to, whether a command makes it (`exec_posts`) or the source itself while it is asked
(`callback_posts`), and an updater that is gone gets none.
-/
import LayerFeed.Proofs.Session.Course
import LayerFeed.Proofs.Session.Routine

namespace LayerFeed

open World

variable {i : UpdaterId} {ref : SourceRef} {h es : List Entry} {e : Entry}

-- ==================================================== asking and posting

/-- The source that is asked for a frame by an entry. -/
def Entry.asks? : Entry → Option SourceRef
  | .source ref .dequeueBegun => some ref
  | _ => none

/-- By the entry a source of updater `i` is asked. -/
def Entry.Serves (i : UpdaterId) (e : Entry) : Prop := ∃ ref, e.asks? = some ref ∧ ref.owner = i

/-- The updater to whose mailbox a post is made by an entry. -/
def Entry.posted? : Entry → Option UpdaterId
  | .posted i => some i
  | _ => none

/-- The updaters to whose mailboxes posts were made, once for each post, in order. -/
def postsIn (h : List Entry) : List UpdaterId := h.filterMap Entry.posted?

/-- And so are the posts. -/
theorem postsIn_append (h es : List Entry) : postsIn (h ++ es) = postsIn h ++ postsIn es :=
  List.filterMap_append

/-- An entry that has nothing to do with what is posted to an updater, or served. -/
def Entry.Idle (i : UpdaterId) (e : Entry) : Prop := e ≠ .posted i ∧ ¬ e.Serves i

/-- An entry that is not by `i` is idle for it. -/
theorem Entry.NotBy.idle (other : e.NotBy i) : e.Idle i := by
  constructor
  · rintro rfl
    exact other rfl
  · rintro ⟨ref, asks, rfl⟩
    cases e with
    | source ref' call =>
      cases call with
      | dequeueBegun =>
        cases asks
        exact other rfl
      | _ => cases asks
    | _ => cases asks

theorem Entry.Ordinary.idle (ordinary : e.Ordinary) : e.Idle i := by
  constructor
  · rintro rfl
    exact ordinary
  · rintro ⟨ref, asks, rfl⟩
    cases e with
    | source ref' call =>
      cases call with
      | dequeueBegun => exact ordinary
      | _ => cases asks
    | _ => cases asks

namespace Updater

variable {u : Updater} {w : World}

/-- Whether an apply asks the source that it finds: if it was not taken yet, or there is a post
in the mailbox. -/
def asks (u : Updater) : Prop := u.consumerAttached = false ∨ u.mailbox.pending

end Updater

namespace Session

variable {s s' : Session} {u : Updater} {hu : Held Updater} {n : Nat} {x : World × Updater}

/-- Whoever posts to an updater that is there writes one post to it, and nothing else. -/
theorem onUpdater_post_history (sound : s.Sound) (live : s.isLive (.updater i)) :
    (s.onUpdater i fun u w => u.post w).world.history = s.world.history ++ [.posted i] := by
  obtain ⟨h, entered⟩ := Option.isSome_iff_exists.1 live
  rw [onUpdater_eq entered, ← (sound.numbered.updaters i h entered).2]
  rfl

/-- The updater to which a command posts, if it posts to one that is there: the one that it names,
or the one whose notifier it names. -/
def postsTo? (s : Session) : Command → Option UpdaterId
  | .post updater => (s.updaterNames.get? updater).filter fun i => s.isLive (.updater i)
  | .notify notifier =>
    match s.notifiers.get? notifier with
    | some (.updater i) => if s.isLive (.updater i) then some i else none
    | _ => none
  | _ => none

/-- Nothing is written by a post to an updater that is gone. -/
theorem onUpdater_gone (gone : ¬ s.isLive (.updater i))
    (f : Updater → World → World × Updater) : s.onUpdater i f = s := by
  unfold onUpdater
  rw [show s.updaters.get? i = none from Option.not_isSome_iff_eq_none.1 gone]

/-- A post to an updater that may be gone. -/
theorem onUpdater_posts (sound : s.Sound) (i : UpdaterId) :
    postsIn (s.onUpdater i fun u w => u.post w).world.history
      = postsIn s.world.history ++ if s.isLive (.updater i) then [i] else [] := by
  by_cases live : s.isLive (.updater i)
  · rw [if_pos live, onUpdater_post_history sound live, postsIn_append]
    rfl
  · rw [if_neg live, onUpdater_gone live, List.append_nil]

/-- A command that stirs nothing makes the post that is asked for, once, and no other. -/
theorem exec_posts (sound : s.Sound) {command : Command} (calm : ¬ command.Stirs) :
    postsIn (s.exec command).1.world.history
      = postsIn s.world.history ++ (s.postsTo? command).toList := by
  rw [exec_change]
  by_cases posts : command.change.Posts
  · cases command with
    | post updater =>
      simp only [Command.change, after, onNamed, postsTo?]
      cases s.updaterNames.get? updater with
      | none => exact (List.append_nil _).symm
      | some id =>
        refine (onUpdater_posts sound id).trans (congrArg (_ ++ ·) ?_)
        rw [Option.filter_some]
        split <;> rfl
    | notify notifier =>
      simp only [Command.change, after, postsTo?]
      cases s.notifiers.get? notifier with
      | none => exact (List.append_nil _).symm
      | some n =>
        cases n with
        | mailbox id => exact (List.append_nil _).symm
        | updater id =>
          refine (onUpdater_posts sound id).trans (congrArg (_ ++ ·) ?_)
          dsimp only
          split <;> rfl
    | _ => exact posts.elim
  · have unasked : s.postsTo? command = none := by
      cases command with
      | post | notify => exact absurd trivial posts
      | _ => rfl
    have ordinary (e : Entry) (ordinary : e.Ordinary) : e.posted? = none := by
      cases e with
      | posted => exact ordinary.elim
      | _ => rfl
    have doings : Doings (fun e => e.posted? = none)
        (fun a b => b.world.history = a.world.history) s (s.after command.change) :=
      change_doings ordinary (fun _ => rfl) (fun posts' => absurd posts' posts) (fun _ _ => rfl)
        fun stirs => calm (command.stirs_change.1 stirs)
    rw [unasked, Option.toList_none, List.append_nil]
    refine doings.kept (I := fun t => postsIn t.world.history = postsIn s.world.history) rfl
      (fun a b affair same => ?_) fun a b unchanged same => by rw [unchanged, same]
    obtain ⟨es, grown, unposted⟩ := affair.history ordinary
    have none : postsIn es = [] := List.filterMap_eq_nil_iff.2 unposted
    rw [grown, postsIn_append, same, none, List.append_nil]

/-- A source that notifies makes one post to the updater that asks it. -/
theorem callback_posts (sound : s.Sound) (live : s.isLive (.updater i))
    (state : Option ContextId) (fences : DequeueFences) :
    (s.callback (some i) state fences .notify).session.world.history
      = s.world.history ++ [.posted i] := onUpdater_post_history sound live

-- ==================================================== taking

end Session

end LayerFeed
