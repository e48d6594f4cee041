import ByteScan.Regex.Matcher

/-!
# Ways through a program

The matcher follows all ways through a program at once. `Accepts` says of a single way that it ends
at a match, and `accepts_of_matchEnd?` that there is one behind every match that the matcher finds.
-/

namespace ByteScan.Regex

/-- From a place at a position some instructions lead to a match that ends at `stop`. -/
inductive Accepts (instructions : Array Instruction) (view : View) (stop : Nat) :
    Nat → Nat → Prop where
  | accept {place : Nat} (found : instructions[place]? = some .accept) :
      Accepts instructions view stop place stop
  | byte {place next position : Nat} {set : ByteSet} {byte : UInt8}
      (found : instructions[place]? = some (.byte set next))
      (stands : view.data[position]? = some byte) (held : set.contains byte = true)
      (rest : Accepts instructions view stop next (position + 1)) :
      Accepts instructions view stop place position
  | first {place first second position : Nat}
      (found : instructions[place]? = some (.split first second))
      (rest : Accepts instructions view stop first position) :
      Accepts instructions view stop place position
  | second {place first second position : Nat}
      (found : instructions[place]? = some (.split first second))
      (rest : Accepts instructions view stop second position) :
      Accepts instructions view stop place position
  | look {place next position : Nat} {condition : Look}
      (found : instructions[place]? = some (.look condition next))
      (holds : view.holds condition position = true)
      (rest : Accepts instructions view stop next position) :
      Accepts instructions view stop place position

variable {program : Program} {view : View} {position : Nat}

def Program.Reaches (program : Program) (view : View) (place position : Nat) : Prop :=
  ∀ stop, Accepts program.instructions view stop place position →
    Accepts program.instructions view stop program.start view.start

/-- The places that wait are reached, and what is taken for a match is one. -/
structure Reached.Sound (reached : Reached) (program : Program) (view : View) (position : Nat) :
    Prop where
  waiting : ∀ place ∈ reached.waiting, program.Reaches view place position
  accepted : reached.accepted = true →
    Accepts program.instructions view position program.start view.start

theorem Reached.sound_nothing (marks : Array Nat) :
    Reached.Sound ⟨marks, [], false⟩ program view position where
  waiting := nofun
  accepted := nofun

theorem follow_sound {fuel : Nat} {places : List Nat} {reached : Reached}
    (reaches : ∀ place ∈ places, program.Reaches view place position)
    (sound : reached.Sound program view position) :
    (follow program view position fuel places reached).Sound program view position := by
  induction fuel generalizing places reached with
  | zero => exact sound
  | succ fuel ih =>
      cases places with
      | nil => exact sound
      | cons place places =>
          have reachesPlace := reaches place List.mem_cons_self
          have reachesRest : ∀ other ∈ places, program.Reaches view other position :=
            fun other listed => reaches other (List.mem_cons_of_mem _ listed)
          rw [follow]
          split
          · exact ih reachesRest sound
          · have marked : Reached.Sound
                { reached with marks := reached.marks.setIfInBounds place (position + 1) }
                program view position := ⟨sound.waiting, sound.accepted⟩
            split
            · rename_i found
              exact ⟨sound.waiting, fun _ => reachesPlace position (.accept found)⟩
            · refine ih reachesRest ⟨?_, sound.accepted⟩
              intro other listed
              rcases List.mem_cons.mp listed with rfl | listed
              · exact reachesPlace
              · exact sound.waiting other listed
            · rename_i first second found
              refine ih ?_ marked
              intro other listed
              rcases List.mem_cons.mp listed with rfl | listed
              · exact fun stop accepts => reachesPlace stop (.first found accepts)
              rcases List.mem_cons.mp listed with rfl | listed
              · exact fun stop accepts => reachesPlace stop (.second found accepts)
              · exact reachesRest other listed
            · rename_i condition next found
              refine ih ?_ marked
              split
              · rename_i holds
                intro other listed
                rcases List.mem_cons.mp listed with rfl | listed
                · exact fun stop accepts => reachesPlace stop (.look found holds accepts)
                · exact reachesRest other listed
              · exact reachesRest
            · exact ih reachesRest marked
            · exact ih reachesRest marked

theorem advance_sound {byte : UInt8} (stands : view.data[position]? = some byte)
    {places : List Nat} {reached : Reached}
    (reaches : ∀ place ∈ places, program.Reaches view place position)
    (sound : reached.Sound program view (position + 1)) :
    (advance program view byte (position + 1) places reached).Sound program view
      (position + 1) := by
  induction places generalizing reached with
  | nil => exact sound
  | cons place places ih =>
      have reachesRest : ∀ other ∈ places, program.Reaches view other position :=
        fun other listed => reaches other (List.mem_cons_of_mem _ listed)
      rw [advance]
      split
      · rename_i set next found
        split
        · rename_i held
          have followed : (follow program view (position + 1) (followFuel program) [next]
              reached).Sound program view (position + 1) := by
            refine follow_sound ?_ sound
            intro other listed stop accepts
            rw [List.mem_singleton.mp listed] at accepts
            exact reaches place List.mem_cons_self stop (.byte found stands held accepts)
          dsimp only
          split
          · exact followed
          · exact ih reachesRest followed
        · exact ih reachesRest sound
      · exact ih reachesRest sound

theorem run_sound {left : Nat} {last : Option Nat} {reached : Reached} {stop : Nat}
    (sound : reached.Sound program view position)
    (known : last = some stop → Accepts program.instructions view stop program.start view.start)
    (found : run program view left position last reached = some stop) :
    Accepts program.instructions view stop program.start view.start := by
  induction left generalizing position last reached with
  | zero => exact known found
  | succ left ih =>
      rw [run] at found
      split at found
      · exact known found
      · exact known found
      · rename_i byte stands _
        have reaches : ∀ place ∈ reached.waiting.reverse, program.Reaches view place position :=
          fun place listed => sound.waiting place (List.mem_reverse.mp listed)
        have next := advance_sound stands reaches (Reached.sound_nothing reached.marks)
        refine ih next ?_ found
        intro same
        split at same
        · rename_i accepted
          cases same
          exact next.accepted accepted
        · exact known same

/-- Behind a match that is found stands a way through the program. -/
theorem accepts_of_matchEnd? {data : ByteArray} {start stop : Nat}
    (found : program.matchEnd? data start = some stop) :
    Accepts program.instructions ⟨data, start⟩ stop program.start start := by
  have reaches : ∀ place ∈ [program.start], program.Reaches ⟨data, start⟩ place start := by
    intro place listed stop accepts
    rw [List.mem_singleton.mp listed] at accepts
    exact accepts
  have begun : Reached.Sound (follow program ⟨data, start⟩ start (followFuel program)
      [program.start] ⟨Array.replicate program.instructions.size 0, [], false⟩) program
      ⟨data, start⟩ start := follow_sound reaches (Reached.sound_nothing _)
  refine run_sound begun ?_ found
  intro same
  split at same
  · rename_i accepted
    cases same
    exact begun.accepted accepted
  · cases same

end ByteScan.Regex
