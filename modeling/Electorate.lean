import Electorate.Config.Connection
import Electorate.Main
import Electorate.Migration.Revision
import Electorate.Web.Application
import Electorate.Proofs.Entries
import Electorate.Proofs.Like
import Electorate.Proofs.Meaning
import Electorate.Proofs.Alternatives
import Electorate.Proofs.UnknownValues
import Electorate.Proofs.ChartCover
import Electorate.Proofs.Labels
import Electorate.Proofs.ConcurrentCounts
import Electorate.Proofs.RegistrationNumber
import Electorate.Proofs.UpperCase
import Electorate.Proofs.Extraction
import Electorate.Proofs.LetterCase
import Electorate.Proofs.CacheHistory
import Electorate.Proofs.StoreFaults
import Electorate.Proofs.VoterFile
import Electorate.Proofs.Pagination
import Electorate.Proofs.BoundLiterals
import Electorate.Proofs.Erasure
import Electorate.Proofs.DisjointCounts
import Electorate.Proofs.RequestLimit
import Electorate.Proofs.SecuredResponses
import Electorate.Proofs.IntegersAsked
import Electorate.Proofs.Memoization
import Electorate.Proofs.NearestDouble
import Electorate.Proofs.Traversal
import Electorate.Proofs.Shares
import Electorate.Proofs.SuitedAnswers
import Electorate.Proofs.RefusedRequests
import Electorate.Proofs.YearCounts
import Electorate.Proofs.ConcurrentSeries
import Electorate.Proofs.FilterWords
import Electorate.Proofs.FrontEnds
import Electorate.Proofs.Addresses
import Electorate.Proofs.NormalForm
import Electorate.Proofs.Turnout
import Electorate.Proofs.Households
import Electorate.Proofs.BracketTables
import Electorate.Proofs.RangeLabels
import Electorate.Proofs.DecimalText
import Electorate.Proofs.YearGroups
import Electorate.Proofs.GreatCircle
import Electorate.Proofs.CircleBox
import Electorate.Proofs.NamePrefix
import Electorate.Proofs.AddressValues
import Electorate.Proofs.Numerals
import Electorate.Proofs.JsonStrings
import Electorate.Proofs.JsonTexts
import Electorate.Proofs.CacheKeys
import Electorate.Proofs.DoubleProduct
import Electorate.Proofs.CircleFaults
import Electorate.Proofs.FilterFaults
import Electorate.Proofs.FilterAlgebra
import Electorate.Proofs.LastVote
import Electorate.Proofs.ClientAddress
import Electorate.Proofs.SchemaName
import Electorate.Proofs.BracketTests
import Electorate.Proofs.SourcesRead
import Electorate.Proofs.AddressLine
