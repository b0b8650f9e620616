import Ferry.Handler.Basic

/-!
# Handlers that follow rules

A rule says what is to be done with the packets of one kind. Such a handler keeps no state
and knows nothing about the player.
-/

namespace Ferry

/-- What is to be done with a packet. -/
structure Rule where
  /-- The packet that takes its place. -/
  replacement : Option Packet
  /-- The packet that is sent back. -/
  reply : Option Packet
  verdict : Verdict
  deriving DecidableEq, Repr

/-- Rules by the kinds of packets they are for; packets of other kinds are not looked at. -/
def Handler.scripted (rules : List (PacketId × Rule)) : Handler Unit where
  wants _ id := (rules.lookup id).isSome
  handle _ player packet :=
    match rules.lookup packet.id with
    | some rule => ⟨rule.verdict, rule.replacement.getD packet, (), player,
        rule.reply.toList.map Action.reply⟩
    | none => Handled.untouched () player packet

end Ferry
