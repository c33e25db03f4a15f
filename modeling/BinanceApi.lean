import BinanceApi.Models.Exchange
import BinanceApi.Models.Order
import BinanceApi.Rest.Client
import BinanceApi.Rest.Candles
import BinanceApi.Rest.FundingRates
import BinanceApi.Rest.Statistics
import BinanceApi.Rest.Orders
import BinanceApi.Stream.TickStore
import BinanceApi.Stream.CandleStore
import BinanceApi.Stream.KlineMessages
import BinanceApi.Stream.Session
import BinanceApi.Stream.Client
import BinanceApi.Library.Registry
import BinanceApi.Stream.Subscriptions
import BinanceApi.Stream.SessionHandlers
import BinanceApi.Rest.ExchangeInfo
import BinanceApi.Rest.Precisions
import BinanceApi.Connector
import BinanceApi.Library.Text
import BinanceApi.Signing
import BinanceApi.Rest.Queries
import BinanceApi.Rest.WeightLimiter
import BinanceApi.Rest.CandleRanges
import BinanceApi.Stream.Joins
import BinanceApi.Rest.OrderConstraints
import BinanceApi.Rest.FundingRequests
import BinanceApi.Rest.FundingBounds
import BinanceApi.Rest.StatisticsRequests
import BinanceApi.Decimals
import BinanceApi.Models.CandleRows
import BinanceApi.Models.EventCodecs
import BinanceApi.Models.UserData
import BinanceApi.Rest.SpotExchangeInfo
import BinanceApi.Rest.CandleRequests
import BinanceApi.Library.ForkJoin
import BinanceApi.Rest.ParallelCandles
import BinanceApi.Credentials
import BinanceApi.Library.Outcomes
import BinanceApi.Models.Definedness
import BinanceApi.Rest.ServerAnswers
import BinanceApi.Rest.CatchUp
import BinanceApi.Library.Mailbox
import BinanceApi.Rest.CandleMarket
import BinanceApi.Rest.RequestCounts
import BinanceApi.Stream.MarketFeed
import BinanceApi.Stream.FeedDelivery
import BinanceApi.Rest.SharedExchangeInfo
import BinanceApi.Stream.Readers
import BinanceApi.Models.Answers
import BinanceApi.Rest.Calls
import BinanceApi.Rest.CallRuns
import BinanceApi.Rest.UninitialisedReads
import BinanceApi.Rest.FundingContent
import BinanceApi.Models.OrderCodecs
import BinanceApi.Rest.CandleGrid
import BinanceApi.ConnectorCalls
