import IolHat.DataLink.IsduDecoding
import IolHat.DataLink.IsduBounds
import IolHat.DataLink.IsduSegmentation
import IolHat.DataLink.Quiescence
import IolHat.DataLink.EventMemory
import IolHat.DataLink.ParamRequest
import IolHat.DataLink.InputDelivery
import IolHat.DataLink.Waiting
import IolHat.DataLink.Retries
import IolHat.ApplicationLayer.Events
import IolHat.ApplicationLayer.EventBatches
import IolHat.ApplicationLayer.IsduServices
import IolHat.SystemManagement.Valuelist
import IolHat.SystemManagement.Comlost
import IolHat.SystemManagement.Admission
import IolHat.SystemManagement.Selection
import IolHat.SystemManagement.Cycletime
import IolHat.SystemManagement.Restarts
import IolHat.ConfigurationManager.Agreement
import IolHat.ConfigurationManager.Deactivation
import IolHat.ConfigurationManager.Requests
import IolHat.DataStorage.Replay
import IolHat.DataStorage.ParameterSet
import IolHat.DataStorage.IndexListRead
import IolHat.DataStorage.Activation
import IolHat.DataStorage.ChecksumRead
import IolHat.OnRequestData.Answers
import IolHat.Osal.Mailbox
import IolHat.PhysicalLayer.RegStatus
import IolHat.PhysicalLayer.FaultReports
import IolHat.Application.DeviceAccess
import IolHat.Application.Replies
import IolHat.Application.DeviceWrite
import IolHat.Application.DeviceOutput
import IolHat.Application.Isolation
import IolHat.Application.CyclicRun
import IolHat.Application.History
import IolHat.Application.Clients
import IolHat.Master.Conservation
import IolHat.Master.EventLoops
import IolHat.Osal.EventFlags
import IolHat.Osal.MailboxThreads
import IolHat.Application.Commands
import IolHat.Application.Session
import IolHat.Application.Handler.Machine
import IolHat.Application.Handler.Ports
import IolHat.Application.Handler.Steps
import IolHat.Application.Handler.Answers
import IolHat.Application.Handler.Causes
import IolHat.PhysicalLayer.Driver
import IolHat.PhysicalLayer.Interrupts
import IolHat.PhysicalLayer.Announcements
import IolHat.PhysicalLayer.Fetching
import IolHat.Master.Callbacks
import IolHat.ProcessDataExchange.Requests
import IolHat.ProcessDataExchange.Sequential
import IolHat.ProcessDataExchange.Image
import IolHat.ProcessDataExchange.Exchange
import IolHat.ProcessDataExchange.Interleavings
import IolHat.ConfigurationManager.Gate
