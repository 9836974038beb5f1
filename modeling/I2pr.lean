import I2pr.ReassemblyTerminal
import I2pr.RecvDelivery
import I2pr.Ssu2Provenance
import I2pr.Ssu2Replay
import I2pr.Ssu2Rejection
import I2pr.Ssu2QueuedWork
import I2pr.Ssu2Reassembly
import I2pr.FailedSend
import I2pr.EciesInterleaving
import I2pr.Ntcp2Integrity
import I2pr.IrcPrivacy
import I2pr.HttpServer
import I2pr.I2cpFrame
import I2pr.SamLineReader
import I2pr.AddressBookStore
import I2pr.TunnelParticipant
import I2pr.StreamingAccounts
import I2pr.StreamingDrains
import I2pr.EciesUsability
import I2pr.EciesConversation
import I2pr.RemoteLeaseSets
import I2pr.RetransmitTimeout
import I2pr.StreamingPolls
import I2pr.Ssu2Token
