import Ferry.Session.Basic

/-!
# Writing to a peer

A batch goes through the queue in front of the connection; what the queue lets out is
written at once.
-/

namespace Ferry.Peer

/-- Writes batches that the queue has let out, up to the first that cannot be written. -/
def sendAll (peer : Peer) : List Batch → Except SessionError Unit × Peer × List Output
  | [] => (.ok (), peer, [])
  | batch :: batches =>
    let (frame, connection, counted) := peer.connection.send batch
    let peer := { peer with connection := connection }
    let counted := counted.map Output.counted
    match frame with
    | .error fault => (.error (.connection fault), peer, counted)
    | .ok frame =>
      let (result, last, outputs) := peer.sendAll batches
      (result, last, counted ++ .written peer.link batch frame :: outputs)

/-- Writes a batch. -/
def write (peer : Peer) (batch : Batch) : Except SessionError Unit × Peer × List Output :=
  let (written, queue, counted) := peer.queue.write batch
  let peer := { peer with queue := queue }
  let counted := counted.map Output.counted
  match written with
  | .error fault => (.error (.overflow fault), peer, counted)
  | .ok batches =>
    let (result, peer, outputs) := peer.sendAll batches
    (result, peer, counted ++ outputs)

/-- Writes batches one after the other, up to the first that cannot be written. -/
def writeAll (peer : Peer) : List Batch → Except SessionError Unit × Peer × List Output
  | [] => (.ok (), peer, [])
  | batch :: batches =>
    let (result, peer, outputs) := peer.write batch
    match result with
    | .error fault => (.error fault, peer, outputs)
    | .ok () =>
      let (result, peer, more) := peer.writeAll batches
      (result, peer, outputs ++ more)

/-- Writes packets ahead of everything that is queued. -/
def sendNow (peer : Peer) (packets : List Packet) :
    Except SessionError Unit × Peer × List Output :=
  if packets.isEmpty then (.ok (), peer, [])
  else peer.write { Batch.made packets with skipQueue := true }

/-- Writes what is queued. -/
def flush (peer : Peer) : Except SessionError Unit × Peer × List Output :=
  let (written, queue) := peer.queue.tick
  let peer := { peer with queue := queue }
  match written with
  | .error fault => (.error (.overflow fault), peer, [])
  | .ok batch => peer.sendAll batch.toList

/-- Gives a peer up. While its link is open, what is queued is written, and then the last
packet, if there is one; otherwise all that is dropped. -/
def close (peer : Peer) (last : Option Packet) : Peer × List Output :=
  if peer.connection.severed then ({ peer with queue := peer.queue.release.2 }, [])
  else
    let (batches, queue) := peer.queue.drain
    let final := last.toList.map fun packet => Batch.made [packet]
    let (_, peer, outputs) := { peer with queue := queue }.sendAll (batches ++ final)
    (peer, outputs)

end Ferry.Peer
