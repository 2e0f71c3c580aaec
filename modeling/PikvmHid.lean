import PikvmHid.Proofs.Answers
import PikvmHid.Proofs.Boundaries
import PikvmHid.Proofs.ClearHid
import PikvmHid.Proofs.CommandCheck
import PikvmHid.Proofs.Delivery
import PikvmHid.Proofs.Descriptors
import PikvmHid.Proofs.Events
import PikvmHid.Proofs.Firmware
import PikvmHid.Proofs.HeldKeys
import PikvmHid.Proofs.Mouse
import PikvmHid.Proofs.Mutex
import PikvmHid.Proofs.Online
import PikvmHid.Proofs.Paths
import PikvmHid.Proofs.Printf
import PikvmHid.Proofs.Queues
import PikvmHid.Proofs.RawProtocol
import PikvmHid.Proofs.Replies
import PikvmHid.Proofs.Responses
import PikvmHid.Proofs.Resync
import PikvmHid.Proofs.Semaphore
import PikvmHid.Proofs.SendMsg
import PikvmHid.Proofs.StaleBytes
import PikvmHid.Proofs.Tasks
import PikvmHid.Proofs.Typing
import PikvmHid.Proofs.UsbRequests
import PikvmHid.Proofs.Utoa
import PikvmHid.Proofs.UsbServed
import PikvmHid.Proofs.UsbRegisters
import PikvmHid.Proofs.UsbStates
import PikvmHid.Proofs.UsbStrays
import PikvmHid.Proofs.UsbSystem
