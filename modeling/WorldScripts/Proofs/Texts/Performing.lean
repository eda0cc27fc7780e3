import WorldScripts.Proofs.Texts.Contents
import WorldScripts.Proofs.World.Frame

/-!
Speaking a text. It takes up to three effects, one after the other, and nothing takes back what was done
before a later one is refused. But all of them need the same, that the speaker is there, and none of them
does anything about that. So either all of them are accepted or the first one is refused.
-/

namespace WorldScripts

/-- All that the effect takes is that somebody is there to show it, and it does not change anything. -/
structure Effect.IsShow (effect : Effect) (speaker : Guid) : Prop where
  needs : effect.needs = [⟨speaker, none⟩]
  harmless : ∀ world : World, world.failure? effect = none ∧ world.alter effect = world

namespace World

variable {world : World} {speaker : Guid} {effect : Effect} {effects : List Effect}

theorem apply_present (shown : effect.IsShow speaker) (present : world.Has speaker) :
    world.apply effect = (.ok (), world.record effect) := by
  obtain ⟨entity, known⟩ := Option.isSome_iff_exists.mp present
  obtain ⟨faultless, same⟩ := shown.harmless world
  refine apply_eq_ok.mpr ⟨?_, by rw [same]⟩
  simp [refusal?, shown.needs, refuses?, known, faultless]

theorem apply_absent (shown : effect.IsShow speaker) (absent : ¬ world.Has speaker) :
    world.apply effect = (.error (.entityNotFound speaker), world) := by
  have unknown : world.entity? speaker = none := Option.not_isSome_iff_eq_none.mp absent
  refine apply_eq_error.mpr ⟨?_, rfl⟩
  simp [refusal?, shown.needs, refuses?, unknown]

theorem applyAll_present (shown : ∀ effect ∈ effects, effect.IsShow speaker)
    (present : world.Has speaker) :
    world.applyAll effects = (.ok (), { world with effects := world.effects ++ effects }) := by
  induction effects generalizing world with
  | nil => rw [applyAll, List.append_nil]
  | cons effect rest ih =>
      obtain ⟨first, others⟩ := List.forall_mem_cons.mp shown
      -- What is recorded of the first effect does not take the speaker away.
      have still : (world.record effect).Has speaker := present
      rw [applyAll, apply_present first present]
      dsimp only
      rw [ih others still]
      simp only [record, List.append_assoc, List.singleton_append]

theorem applyAll_absent (shown : ∀ effect ∈ effects, effect.IsShow speaker) (some : effects ≠ [])
    (absent : ¬ world.Has speaker) :
    world.applyAll effects = (.error (.entityNotFound speaker), world) := by
  cases effects with
  | nil => exact absurd rfl some
  | cons effect rest => rw [applyAll, apply_absent (shown effect List.mem_cons_self) absent]

end World

namespace TextEntry

variable (entry : TextEntry) (id : Int32) (speaker : Guid) (target : Option Guid)

theorem performance_shows :
    ∀ effect ∈ entry.performance id speaker target, effect.IsShow speaker := by
  unfold performance
  simp only [List.forall_mem_append, List.forall_mem_singleton]
  refine ⟨⟨?_, ?_⟩, ⟨rfl, fun _ => ⟨rfl, rfl⟩⟩⟩
  · split
    · exact fun _ nothing => absurd nothing List.not_mem_nil
    · exact List.forall_mem_singleton.mpr ⟨rfl, fun _ => ⟨rfl, rfl⟩⟩
  · split
    · exact fun _ nothing => absurd nothing List.not_mem_nil
    · exact List.forall_mem_singleton.mpr ⟨rfl, fun _ => ⟨rfl, rfl⟩⟩

theorem performance_eq : entry.performance id speaker target =
    (if entry.sound ≠ 0 then [.playSound speaker entry.sound none false] else []) ++
      (if entry.emote ≠ 0 ∧ speaker.kind ∈ [.player, .creature, .pet] then
        [.emote speaker entry.emote] else []) ++
      [.say speaker target id entry.chat entry.language] := by
  have unit : speaker.kind.isUnit = true ↔ speaker.kind ∈ [.player, .creature, .pet] := by
    cases speaker.kind <;> decide
  simp only [performance, ← unit]
  by_cases silent : entry.sound = 0 <;> by_cases still : entry.emote = 0 <;>
    cases speaker.kind.isUnit <;> simp [silent, still]

theorem performance_ne_nil : entry.performance id speaker target ≠ [] :=
  List.append_ne_nil_of_right_ne_nil _ (List.cons_ne_nil _ _)

end TextEntry

namespace Texts

def Addressed (entry : TextEntry) (target : Option Guid) : Prop :=
  entry.chat = .whisper ∨ entry.chat = .bossWhisper →
    ∃ player, target = some player ∧ player.kind = .player

theorem addressed_iff (entry : TextEntry) (target : Option Guid) :
    Addressed entry target ↔ ¬ (entry.chat.isWhisper && !isPlayer target) = true := by
  unfold Addressed isPlayer
  cases entry.chat <;> cases target <;> simp [ChatType.isWhisper]

/-- What comes of speaking: a text that there is not, or that nobody can be whispered, or that nobody is
there to speak, leaves the world alone, and any other is shown in full. -/
inductive Utterance (text : Option TextEntry) (id : Int32) (speaker : Guid) (target : Option Guid)
    (world : World) : Except TextError Unit × World → Prop where
  | outOfRange : TextRange.ofId? id = none →
      Utterance text id speaker target world (.error (.outOfRange id), world)
  | missing : TextRange.ofId? id ≠ none → text = none →
      Utterance text id speaker target world (.error (.missing id), world)
  | unaddressed {entry : TextEntry} : text = some entry → ¬ Addressed entry target →
      Utterance text id speaker target world (.error (.needsPlayerTarget id), world)
  | absent {entry : TextEntry} : text = some entry → Addressed entry target → ¬ world.Has speaker →
      Utterance text id speaker target world (.error (.refused (.entityNotFound speaker)), world)
  | spoken {entry : TextEntry} : text = some entry → Addressed entry target → world.Has speaker →
      Utterance text id speaker target world
        (.ok (), { world with effects := world.effects ++ entry.performance id speaker target })

theorem speak_utterance (texts : Texts) (id : Int32) (speaker : Guid) (target : Option Guid)
    (world : World) :
    Utterance (texts.find? id) id speaker target world (texts.speak id speaker target world) := by
  unfold speak script
  cases range : TextRange.ofId? id with
  | none => exact .outOfRange range
  | some range =>
      cases texts.find? id with
      | none => exact .missing (by simp [range]) rfl
      | some entry =>
          have shows := entry.performance_shows id speaker target
          have some := entry.performance_ne_nil id speaker target
          dsimp only
          by_cases addressed : Addressed entry target
          · rw [if_neg ((addressed_iff entry target).mp addressed)]
            by_cases present : world.Has speaker
            · simp only [World.applyAll_present shows present]
              exact .spoken rfl addressed present
            · simp only [World.applyAll_absent shows some present]
              exact .absent rfl addressed present
          · rw [if_pos (not_not.mp (mt (addressed_iff entry target).mpr addressed))]
            exact .unaddressed rfl addressed

namespace Utterance

variable {text : Option TextEntry} {id : Int32} {speaker : Guid} {target : Option Guid} {world : World}
variable {done : Except TextError Unit × World}

theorem unchanged {error : TextError} (utterance : Utterance text id speaker target world done)
    (failed : done.1 = .error error) : done.2 = world := by
  cases utterance with
  | outOfRange | missing | unaddressed | absent => rfl
  | spoken => cases failed

theorem eq_ok (utterance : Utterance text id speaker target world done)
    (known : text.isSome = true → TextRange.ofId? id ≠ none) {after : World} :
    done = (.ok (), after) ↔
      ∃ entry, text = some entry ∧ Addressed entry target ∧ world.Has speaker ∧
        after = { world with effects := world.effects ++ entry.performance id speaker target } := by
  constructor
  · rintro rfl
    cases utterance with
    | spoken found addressed present => exact ⟨_, found, addressed, present, rfl⟩
  · rintro ⟨entry, rfl, addressed, present, rfl⟩
    cases utterance with
    | outOfRange outside => exact absurd outside (known rfl)
    | missing _ nothing => cases nothing
    | unaddressed found unaddressed =>
        cases found
        exact absurd addressed unaddressed
    | absent _ _ absent => exact absurd present absent
    | spoken found _ _ =>
        cases found
        rfl

end Utterance

theorem range_of_text {rows : List TextRow} {id : Int32}
    (some : ((rows.filter (·.entry = id)).findSome? TextRow.text?).isSome = true) :
    TextRange.ofId? id ≠ none := by
  obtain ⟨row, member, read⟩ := List.findSome?_isSome_iff.mp some
  obtain rfl : row.entry = id := of_decide_eq_true (List.mem_filter.mp member).2
  intro outside
  simp [TextRow.text?, outside] at read

/-- Speaking a text either fails and leaves the world as it was, record included, or all of it is
recorded and nothing else happens: the sound if there is one, then the emote if there is one and a unit to
show it, and last the words, as the first usable row of the text has them. -/
theorem speak_whole (rows : List TextRow) (id : Int32) (speaker : Guid) (target : Option Guid)
    (world : World) :
    let text := (rows.filter (·.entry = id)).findSome? TextRow.text?
    let done := (ofRows rows).value.speak id speaker target world
    Utterance text id speaker target world done ∧
      (∀ error, done.1 = .error error → done.2 = world) ∧
      ∀ after, done = (.ok (), after) ↔
        ∃ entry, text = some entry ∧ Addressed entry target ∧ world.Has speaker ∧
          after = { world with effects := world.effects ++
            ((if entry.sound ≠ 0 then [.playSound speaker entry.sound none false] else []) ++
              (if entry.emote ≠ 0 ∧ speaker.kind ∈ [.player, .creature, .pet] then
                [.emote speaker entry.emote] else []) ++
              [.say speaker target id entry.chat entry.language]) } := by
  intro text done
  have utterance : Utterance text id speaker target world done := by
    have spoken := (ofRows rows).value.speak_utterance id speaker target world
    rwa [find?_ofRows] at spoken
  refine ⟨utterance, fun error => utterance.unchanged, fun after => ?_⟩
  simp only [← TextEntry.performance_eq]
  exact utterance.eq_ok range_of_text

end Texts

end WorldScripts
