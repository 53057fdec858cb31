import VrfPresence.FileSystem.MemoryStore
import VrfPresence.Proofs.CommandLine.Given
import VrfPresence.Proofs.Run.OnReader

/-!
# The same options, written otherwise

A set of options is an invocation. Its lines put the options in any order and write each in any
of its ways. They are all read as this invocation, and no other line is, so that the run on one
of them is the run on any other.
-/

namespace VrfPresence

open CommandLine FileSystem

namespace CommandLine

/-- The value is not empty, and starts neither with a dash nor with an equals sign. -/
def Item.Free : Item → Prop
  | .verbose => True
  | .option _ value => ∃ c text, value.toList = c :: text ∧ c ≠ '-' ∧ c ≠ '='

/-- The ways to write an item on its own. -/
def Item.ways : Item → List (List String)
  | .verbose => [["-v"], ["--verbose"]]
  | .option wanted value =>
    let name := "--" ++ (Switch.option wanted).name
    [name ++ "=" ++ value] :: [name, value] :: match (Switch.option wanted).letter? with
      | none => []
      | some letter =>
        [[String.ofList ('-' :: letter :: value.toList)],
          [String.ofList ('-' :: letter :: '=' :: value.toList)],
          [String.ofList ['-', letter], value]]

theorem writes_iff_mem_ways {item : Item} (h : item.Free) (words : List String) :
    Writes item words ↔ words ∈ item.ways := by
  constructor
  · intro hw
    cases hw with
    | verboseLetter => exact .head _
    | verboseName => exact .tail _ (.head _)
    | attached option value => exact .head _
    | apart option hv => exact .tail _ (.head _)
    | letterJoined hl hne hv => simp [Item.ways, hl]
    | letterAttached hl value => simp [Item.ways, hl]
    | letterApart hl hv => simp [Item.ways, hl]
  · intro hm
    cases item with
    | verbose =>
      simp only [Item.ways, List.mem_cons, List.not_mem_nil, or_false] at hm
      rcases hm with rfl | rfl
      · exact .verboseLetter
      · exact .verboseName
    | option option value =>
      obtain ⟨c, text, hv, hdash, hequals⟩ := h
      have hplain : IsPlain value := by
        intro rest hr
        rw [hv] at hr
        exact absurd (List.cons.inj hr).1 hdash
      have hne : value ≠ "" := by
        rintro rfl
        cases hv
      have hhead : value.toList.head? ≠ some '=' := by
        rw [hv]
        exact fun he => hequals (Option.some.inj he)
      cases hl : (Switch.option option).letter? with
      | none =>
        simp only [Item.ways, hl, List.mem_cons, List.not_mem_nil, or_false] at hm
        rcases hm with rfl | rfl
        · exact .attached option value
        · exact .apart option hplain
      | some letter =>
        simp only [Item.ways, hl, List.mem_cons, List.not_mem_nil, or_false] at hm
        rcases hm with rfl | rfl | rfl | rfl | rfl
        · exact .attached option value
        · exact .apart option hplain
        · exact .letterJoined hl hne hhead
        · exact .letterAttached hl value
        · exact .letterApart hl hplain

end CommandLine

theorem runOn_of_read_eq (reader : Reader Id) (filter : Log.Filter) {line other : List String}
    (h : CommandLine.read line = CommandLine.read other) :
    runOn reader filter line = runOn reader filter other := by
  rw [runOn, runOn, run, run, h]

/-- The lines of an invocation are the orders of its options in all their writings, and the run is
the same on any of them. A value that starts freely can be written in every way. -/
theorem runOn_spellings (reader : Reader Id) (filter : Log.Filter) {invocation : Invocation}
    (hn : invocation.Proper) :
    (∀ line, CommandLine.read line = .ok invocation ↔
      ∃ items, Gives items invocation ∧ WritesLine items line) ∧
    (∀ items other line otherLine, Gives items invocation → WritesLine items line →
      Gives other invocation → WritesLine other otherLine →
      runOn reader filter line = runOn reader filter otherLine) ∧
    ∀ item words, item.Free → (Writes item words ↔ words ∈ item.ways) := by
  have hread : ∀ line, CommandLine.read line = .ok invocation ↔
      ∃ items, Gives items invocation ∧ WritesLine items line := by
    intro line
    rw [read_iff_gives]
    exact and_iff_right hn
  refine ⟨hread, ?_, fun item words h => writes_iff_mem_ways h words⟩
  intro items other line otherLine hg hw hgo hwo
  have hline := (hread line).2 ⟨items, hg, hw⟩
  have hother := (hread otherLine).2 ⟨other, hgo, hwo⟩
  exact runOn_of_read_eq reader filter (hline.trans hother.symm)

/-- An equals sign and a dash inside of values, a flag in front of an option, two dashes at the
end. -/
theorem runOn_spellings_grouped :
    let invocation : Invocation := ⟨some "a=b", ⟨some .warn, none, some "c -v"⟩, true⟩
    let line := ["-vpwarn", "--proc-modules", "c -v", "-c=a=b", "--"]
    let other := ["-ca=b", "--proc-modules=c -v", "-vp", "warn"]
    let reader := ((MemoryStore.empty.addFile "a=b" "# none\n").addFile "c -v"
      "vrf 7 - a, Live 0x0\n").reader
    invocation.Proper ∧ CommandLine.read line = .ok invocation ∧
      runOn reader .standard line = runOn reader .standard other ∧
      runOn reader .standard line = ⟨0, "",
        ["[INFO  vrfcheck] VRF kernel module loaded (Registry probe)",
          "[INFO  vrfcheck] vrf: size 7 refcount 0 state Live used by [a]"]⟩ := by
  intro invocation line other reader
  have hn : invocation.Proper := invocation.proper_iff.2 (by decide)
  have hplain : IsPlain "c -v" := by rintro rest ⟨⟩
  have hw : WritesLine [.verbose, .option .policy "warn", .option .registry "c -v",
      .option .config "a=b"] line :=
    .grouped (by decide) <| .cons (.letterJoined rfl (by decide) (by decide)) <|
      .cons (.apart .registry hplain) <| .cons (.letterAttached rfl "a=b") .ended
  have hwo : WritesLine [.option .config "a=b", .option .registry "c -v", .verbose,
      .option .policy "warn"] other :=
    .cons (.letterJoined rfl (by decide) (by decide)) <| .cons (.attached .registry "c -v") <|
      .grouped (by decide) <| .cons (.letterApart rfl (by rintro rest ⟨⟩)) .nil
  have hg : Gives [.verbose, .option .policy "warn", .option .registry "c -v",
      .option .config "a=b"] invocation := ⟨fun option => by cases option <;> rfl, rfl⟩
  have hgo : Gives [.option .config "a=b", .option .registry "c -v", .verbose,
      .option .policy "warn"] invocation := ⟨fun option => by cases option <;> rfl, rfl⟩
  have hlaw := runOn_spellings reader .standard hn
  exact ⟨hn, (hlaw.1 line).2 ⟨_, hg, hw⟩, hlaw.2.1 _ _ line other hg hw hgo hwo, by decide +kernel⟩

end VrfPresence
