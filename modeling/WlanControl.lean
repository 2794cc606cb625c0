import WlanControl.Address
import WlanControl.Discovery.Matcher
import WlanControl.Discovery.Record
import WlanControl.Discovery.Rssi
import WlanControl.Discovery.Table
import WlanControl.Frame.Advertisement
import WlanControl.Frame.Beacon
import WlanControl.Frame.Code
import WlanControl.Frame.Control
import WlanControl.Frame.Element
import WlanControl.Frame.Error
import WlanControl.Frame.Field
import WlanControl.Frame.Header
import WlanControl.Frame.Kind
import WlanControl.Frame.Outgoing
import WlanControl.Frame.Rate
import WlanControl.Frame.Received
import WlanControl.Frame.Security
import WlanControl.Host.Basic
import WlanControl.Host.Poll
import WlanControl.Host.Requests
import WlanControl.Host.Status
import WlanControl.Link.Attempt
import WlanControl.Link.Commands
import WlanControl.Link.Forwarding
import WlanControl.Link.Hosting
import WlanControl.Link.Machine
import WlanControl.Link.Mode
import WlanControl.Link.Reception
import WlanControl.Link.Settings
import WlanControl.Link.Surroundings
import WlanControl.Link.Tick
import WlanControl.Link.Transmission
import WlanControl.Octets
import WlanControl.Proofs.BeaconElements
import WlanControl.Proofs.CommandTraffic
import WlanControl.Proofs.ElementChains
import WlanControl.Proofs.FrameDrafts
import WlanControl.Proofs.FrameKinds
import WlanControl.Proofs.FramePositions
import WlanControl.Proofs.FrameReading
import WlanControl.Proofs.FrameShortness
import WlanControl.Proofs.FrameWriting
import WlanControl.Proofs.HostAdmission
import WlanControl.Proofs.HostCalls
import WlanControl.Proofs.HostRefusals
import WlanControl.Proofs.HostSearch
import WlanControl.Proofs.HostServing
import WlanControl.Proofs.KickRequests
import WlanControl.Proofs.LinkAccount
import WlanControl.Proofs.LinkAttempts
import WlanControl.Proofs.LinkAuthentication
import WlanControl.Proofs.LinkBalance
import WlanControl.Proofs.LinkBurst
import WlanControl.Proofs.LinkCourse
import WlanControl.Proofs.LinkCredentials
import WlanControl.Proofs.LinkDiscoveries
import WlanControl.Proofs.LinkDismissals
import WlanControl.Proofs.LinkDuplicates
import WlanControl.Proofs.LinkEncounter
import WlanControl.Proofs.LinkEntry
import WlanControl.Proofs.LinkFallbacks
import WlanControl.Proofs.LinkFrames
import WlanControl.Proofs.LinkFreight
import WlanControl.Proofs.LinkHandlers
import WlanControl.Proofs.LinkHistory
import WlanControl.Proofs.LinkInbox
import WlanControl.Proofs.LinkKeys
import WlanControl.Proofs.LinkKicks
import WlanControl.Proofs.LinkLedger
import WlanControl.Proofs.LinkOffers
import WlanControl.Proofs.LinkOutbox
import WlanControl.Proofs.LinkPartings
import WlanControl.Proofs.LinkPassages
import WlanControl.Proofs.LinkQuiet
import WlanControl.Proofs.LinkRelay
import WlanControl.Proofs.LinkRequests
import WlanControl.Proofs.LinkRest
import WlanControl.Proofs.LinkRetries
import WlanControl.Proofs.LinkRuns
import WlanControl.Proofs.LinkSecrecy
import WlanControl.Proofs.LinkSessions
import WlanControl.Proofs.LinkSilence
import WlanControl.Proofs.LinkStages
import WlanControl.Proofs.LinkStanding
import WlanControl.Proofs.LinkStrangers
import WlanControl.Proofs.LinkTending
import WlanControl.Proofs.LinkTidiness
import WlanControl.Proofs.LinkTurns
import WlanControl.Proofs.LinkUtterances
import WlanControl.Proofs.LinkWire
import WlanControl.Proofs.LinkWishes
import WlanControl.Proofs.MailboxTraffic
import WlanControl.Proofs.PollOutcome
import WlanControl.Proofs.RingAccounts
import WlanControl.Proofs.RingContents
import WlanControl.Proofs.RingLayout
import WlanControl.Proofs.RingPolls
import WlanControl.Proofs.RingRoom
import WlanControl.Proofs.RingStorage
import WlanControl.Proofs.RingTraffic
import WlanControl.Proofs.RingWaiting
import WlanControl.Proofs.RosterSlots
import WlanControl.Proofs.SessionHistory
import WlanControl.Proofs.SessionOutcomes
import WlanControl.Proofs.SharedLives
import WlanControl.Proofs.SuiteLists
import WlanControl.Proofs.TableHistory
import WlanControl.Proofs.TableOrigins
import WlanControl.Proofs.TablePlacement
import WlanControl.Proofs.TableRecollection
import WlanControl.Proofs.TableSearch
import WlanControl.Proofs.TableSurvey
import WlanControl.Proofs.TableTenancy
import WlanControl.Radio.FrameQueue
import WlanControl.Report.Frame
import WlanControl.Report.Name
import WlanControl.Report.State
import WlanControl.Report.Value
import WlanControl.Request.Channel
import WlanControl.Request.Descriptor
import WlanControl.Request.Error
import WlanControl.Request.Hosting
import WlanControl.Request.Key
import WlanControl.Request.Profile
import WlanControl.Ring.Basic
import WlanControl.Ring.Packet
import WlanControl.Session.Roster
import WlanControl.Session.Table
import WlanControl.Shared.Command
import WlanControl.Shared.Mailbox
import WlanControl.Shared.Region
import WlanControl.Shared.State
import WlanControl.Shared.Status
import WlanControl.Ssid
import WlanControl.Sync.Doorbell
import WlanControl.Sync.Lock
import WlanControl.Text.Extending
import WlanControl.Text.Quoted
import WlanControl.Text.Unprintable
